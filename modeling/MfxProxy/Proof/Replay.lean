import MfxProxy.Proof.Describe

/-!
# `Describe` plays the script of its reply

* `replayDescribe_plays`: the calls of `Describe`, how the host answers them and how it
  ends are those of the script of the reply (`ActionDescribeEnd.plan`), on every host.
-/

namespace MfxProxy

open Lib

variable {S : Suites} {ndebug : Bool} {descriptor : ℕ} {paramSet props : Option ℕ} {α β : Type}

/-- The handles are these. -/
def Replay.Holds (paramSet props : Option ℕ) (w : Replay) : Prop := w.paramSet = paramSet ∧ w.props = props

/-- The handle of the parameter set is this one, and an item may be at hand or not. -/
def Replay.HoldsSet (paramSet : Option ℕ) (w : Replay) : Prop := w.paramSet = paramSet

/-- The code `x` on the log does what the script `p` does. -/
abbrev Suites.Plays (S : Suites) (P : Replay → Prop) (x : Suites.Code β) (p : Script ReplayStep Fault)
    (Q : β → Replay → Prop) : Prop :=
  Lib.Plays S.machine Replay.log P x p Q

/-! ## Calls -/

/-- A step goes wrong if it sets a property and the host does not return OK. -/
theorem check_eq_some {w : Replay} {a : ReplayStep} {f : Fault} : S.machine.check w a = some f ↔
    a.isSet = true ∧ S.answer w a ≠ kOfxStatOK ∧ f = .suite (S.answer w a) := by
  unfold Suites.machine
  by_cases h : a.isSet = true ∧ S.answer w a ≠ kOfxStatOK
  · simp only [if_pos h, Option.some.injEq]
    constructor
    · intro hf
      exact ⟨h.1, h.2, hf.symm⟩
    · intro hf
      exact hf.2.2.symm
  · simp only [if_neg h]
    constructor
    · intro hf
      cases hf
    · intro hf
      exact absurd ⟨hf.1, hf.2.1⟩ h

theorem check_eq_none {w : Replay} {a : ReplayStep} : S.machine.check w a = none ↔
    (a.isSet = true → S.answer w a = kOfxStatOK) := by
  unfold Suites.machine
  simp

/-- A call whose status is checked. -/
theorem set_plays {a : ReplayStep} {c : SuiteCall} (ha : a.isSet = true)
    (hcall : ∀ w : Replay, w.props = props → a.call w = c) :
    S.Plays (Replay.Holds paramSet props) (S.call c >>= fun status => Prog.lift (MFX_ENSURE status)) { steps := [a] }
      fun _ => Replay.Holds paramSet props := by
  intro w hw
  have hc : S.status w.log c = S.answer w a := by rw [Suites.answer, hcall w hw.2]
  have hrun : (S.call c >>= fun status => Prog.lift (MFX_ENSURE status)).run w.log =
      ((S.machine.advance w a).log, MFX_ENSURE (S.answer w a)) := by
    simp [Suites.call, Suites.machine, hcall w hw.2, hc]
  rw [Script.play, Machine.play, hrun]
  by_cases hok : S.answer w a = kOfxStatOK
  · rw [check_eq_none.2 fun _ => hok, MFX_ENSURE, if_pos hok]
    refine ⟨(), rfl, ?_⟩
    cases a <;> first | exact hw | cases ha
  · rw [check_eq_some.2 ⟨ha, hok, rfl⟩, MFX_ENSURE, if_neg hok]

/-- A call with an output handle, whose status is not checked. -/
theorem callOut_plays {P : Replay → Prop} {a : ReplayStep} {c : SuiteCall} (ha : a.isSet = false)
    (hcall : ∀ w : Replay, P w → a.call w = c) :
    S.Plays P (S.callOut c) { steps := [a] }
      fun out w => ∃ w₀, P w₀ ∧ w = S.machine.advance w₀ a ∧ out.2 = S.output w₀ a := by
  intro w hw
  have hc : S.status w.log c = S.answer w a := by rw [Suites.answer, hcall w hw]
  rw [Script.play, Machine.play, check_eq_none.2 fun h => by simp [ha] at h]
  refine ⟨(S.answer w a, S.output w a), ?_, w, hw, rfl, rfl⟩
  simp [Suites.callOut, Suites.call, Suites.machine, Suites.output, hcall w hw, hc, Except.map]

/-! ## The properties of an item -/

theorem need_plays {P : Replay → Prop} {Q : β → Replay → Prop} {field : Option α} {f : α → Script ReplayStep Fault}
    {x : α → Suites.Code β} (h : ∀ a, field = some a → S.Plays P (x a) (f a) Q) :
    S.Plays P (Prog.lift (deref field) >>= x) (need field f) Q := by
  cases field with
  | none => exact plays_throw
  | some a => exact h a rfl

theorem setValues_plays {value : Option α} {values : α → Option (List β)} {set : ℕ → β → SuiteCall}
    {step : ℕ → β → ReplayStep} (hset : ∀ i v, (step i v).isSet = true)
    (hcall : ∀ i v (w : Replay), w.props = props → (step i v).call w = set i v) :
    S.Plays (Replay.Holds paramSet props) (S.setValues value values set) (setsPlan value values step)
      fun _ => Replay.Holds paramSet props := by
  refine need_plays fun v _ => need_plays fun l _ => ?_
  have hsteps : ({ steps := l.zipIdx.map fun p => step p.2 p.1 } : Script ReplayStep Fault) =
      .all (l.zipIdx.map fun p => { steps := [step p.2 p.1] }) := by
    rw [Script.all_of_ends fun p hp => ?_, List.flatMap_map, List.map_eq_flatMap]
    obtain ⟨q, -, rfl⟩ := List.mem_map.1 hp
    rfl
  rw [hsteps]
  exact plays_forEach fun p _ => set_plays (hset p.2 p.1) (hcall p.2 p.1)

/-- Setting a property calls for its value, and returns OK. -/
theorem prop_set_plays {property : OfxProperty} {name : String} (hname : property.name = some name) :
    S.Plays (Replay.Holds paramSet props) (S.prop_set_from_flatbuffer props property) (property.value.plan (c_str name))
      fun status w => Replay.Holds paramSet props w ∧ status = kOfxStatOK := by
  obtain ⟨_, value⟩ := property
  subst hname
  have hend : ∀ _u : Unit, S.Plays (Replay.Holds paramSet props) (pure kOfxStatOK) {}
      fun status w => Replay.Holds paramSet props w ∧ status = kOfxStatOK :=
    fun _ => plays_pure fun _ h => ⟨h, rfl⟩
  cases value with
  | NONE => exact plays_pure fun _ h => ⟨h, rfl⟩
  | OfxPropertyIntNValue value =>
    refine (setValues_plays (fun _ _ => rfl) fun i v w hw => ?_).bind_empty hend
    rw [← hw]
    rfl
  | OfxPropertyFloatNValue value =>
    refine (setValues_plays (fun _ _ => rfl) fun i v w hw => ?_).bind_empty hend
    rw [← hw]
    rfl
  | OfxPropertyStringNValue value =>
    refine (setValues_plays (fun _ _ => rfl) fun i v w hw => ?_).bind_empty hend
    rw [← hw]
    rfl
  | OfxPropertyPointerValue value => exact plays_pure fun _ h => ⟨h, rfl⟩

theorem replayProperty_plays (skip : List String) (property : OfxProperty) :
    S.Plays (Replay.Holds paramSet props) (S.replayProperty skip props property) (property.plan skip)
      fun _ => Replay.Holds paramSet props := by
  refine need_plays fun name hname => ?_
  by_cases hskip : name ∈ skip
  · rw [if_pos hskip, if_pos hskip]
    exact plays_pure fun _ h => h
  · rw [if_neg hskip, if_neg hskip]
    refine (prop_set_plays hname).bind_empty fun status => plays_and_pure fun hok => ?_
    rw [hok]
    exact plays_pure fun _ h => h

/-! ## One item -/

theorem replayProperties_plays (paramSet props : Option ℕ) (skip : List String) (l : List OfxProperty) :
    S.Plays (Replay.Holds paramSet props) (Prog.forEach (S.replayProperty skip props) l) (.all (l.map (·.plan skip)))
      fun _ => Replay.Holds paramSet props :=
  plays_forEach fun p _ => replayProperty_plays skip p

theorem found_isSome {key : String} {l : List OfxProperty} : (found key l).isSome = true ↔ Has key l := by
  unfold found
  by_cases h : Has key l
  · simp [h]
  · simp [h]

/-- The assertion on the end of a search. -/
theorem cassert_found {key : String} {l : List OfxProperty} :
    cassert ndebug ((found key l).isSome = true) = if ndebug ∨ Has key l then .ok () else .error .assert := by
  unfold cassert
  exact if_congr (or_congr Iff.rfl found_isSome) rfl rfl

theorem replayParameter_plays (ndebug : Bool) (parameter : OfxParameter) :
    S.Plays (Replay.HoldsSet paramSet) (S.replayParameter ndebug paramSet parameter) (parameter.plan ndebug)
      fun _ => Replay.HoldsSet paramSet := by
  refine need_plays fun l _ => ?_
  rw [findParamName_eq]
  by_cases hun : Unnamed l
  · rw [if_pos hun, if_pos hun]
    exact plays_throw
  rw [if_neg hun, if_neg hun, Prog.lift_ok_bind]
  simp only [cassert_found]
  by_cases hname : ndebug ∨ Has kOfxPropName l
  · by_cases htype : ndebug ∨ Has kOfxParamPropType l
    · rw [if_pos hname, if_pos htype, if_pos (or_and_left.2 ⟨hname, htype⟩)]
      simp only [Prog.lift_ok_bind]
      refine (callOut_plays (a := .paramDefine (found kOfxParamPropType l) (found kOfxPropName l)) rfl ?_).bind
        fun out => ?_
      · intro w hw
        rw [← hw]
        rfl
      · -- the handle of the item is the one that the host wrote
        refine (replayProperties_plays paramSet out.2 _ l).conseq ?_ fun _ w h => h.1
        rintro w ⟨w₀, hw₀, rfl, hout⟩
        exact ⟨hw₀, hout.symm⟩
    · rw [if_pos hname, if_neg htype, if_neg fun h => htype (or_and_left.1 h).2]
      exact plays_throw
  · rw [if_neg hname, if_neg fun h => hname (or_and_left.1 h).1]
    exact plays_throw

theorem replayInput_plays (ndebug : Bool) (descriptor : ℕ) (input : OfxMesh) :
    S.Plays (Replay.HoldsSet paramSet) (S.replayInput ndebug descriptor input) (input.plan ndebug descriptor)
      fun _ => Replay.HoldsSet paramSet := by
  refine need_plays fun l _ => ?_
  rw [findInputName_eq]
  by_cases hun : Unnamed l
  · rw [if_pos hun, if_pos hun]
    exact plays_throw
  rw [if_neg hun, if_neg hun, Prog.lift_ok_bind]
  simp only [cassert_found]
  by_cases hname : ndebug ∨ Has kOfxPropName l
  · rw [if_pos hname, if_pos hname, Prog.lift_ok_bind]
    refine (callOut_plays (a := .inputDefine descriptor (found kOfxPropName l)) rfl fun _ _ => rfl).bind fun out => ?_
    refine need_plays fun _ _ => ?_
    refine (replayProperties_plays paramSet out.2 _ l).conseq ?_ fun _ w h => h.1
    rintro w ⟨w₀, hw₀, rfl, hout⟩
    exact ⟨hw₀, hout.symm⟩
  · rw [if_neg hname, if_neg hname]
    exact plays_throw

/-! ## The whole reply -/

/-- **`Describe` plays the script of its reply**, and returns OK if the script ends well. -/
theorem replayDescribe_plays (S : Suites) (ndebug : Bool) (descriptor : ℕ) (action : ActionDescribeEnd) :
    S.Plays (fun _ => True) (S.replayDescribe ndebug descriptor action) (action.plan ndebug descriptor)
      fun status _ => status = kOfxStatOK := by
  refine need_plays fun status _ => ?_
  by_cases hok : status.status = kOfxStatOK
  · rw [if_pos hok, MFX_ENSURE, if_pos hok, Prog.lift_ok_bind]
    refine (callOut_plays (a := .getParamSet descriptor) rfl fun _ _ => rfl).bind fun out => ?_
    -- whatever came out of the call is the handle of the parameter set from here on
    refine Plays.conseq (P := Replay.HoldsSet out.2) ?_ ?_ fun _ _ h => h
    · have hparams : S.Plays (Replay.HoldsSet out.2)
          (Prog.lift (deref action.parameters) >>= Prog.forEach (S.replayParameter ndebug out.2))
          (need action.parameters fun l => .all (l.map (·.plan ndebug))) fun _ => Replay.HoldsSet out.2 :=
        need_plays fun l _ => plays_forEach fun p _ => replayParameter_plays ndebug p
      have hinputs : S.Plays (Replay.HoldsSet out.2)
          (Prog.lift (deref action.inputs) >>= Prog.forEach (S.replayInput ndebug descriptor))
          (need action.inputs fun l => .all (l.map (·.plan ndebug descriptor))) fun _ => Replay.HoldsSet out.2 :=
        need_plays fun l _ => plays_forEach fun m _ => replayInput_plays ndebug descriptor m
      have hend := hparams.bind fun _ => hinputs.bind_empty fun _ =>
        plays_pure (Q := fun st _ => st = kOfxStatOK) fun _ _ => hok
      simpa only [bind_assoc] using hend
    · rintro w ⟨w₀, -, rfl, hout⟩
      exact hout.symm
  · rw [if_neg hok, MFX_ENSURE, if_neg hok]
    exact plays_throw

/-- How `Describe` runs after the calls in `log`. -/
theorem replayDescribe_run (S : Suites) (ndebug : Bool) (descriptor : ℕ) (action : ActionDescribeEnd) (log : SuiteLog) :
    (S.replayDescribe ndebug descriptor action).run log =
      (((action.plan ndebug descriptor).play S.machine { log := log }).1.log,
        ((action.plan ndebug descriptor).play S.machine { log := log }).2.map fun _ => kOfxStatOK) := by
  have hplays := replayDescribe_plays S ndebug descriptor action
  rcases hp : (action.plan ndebug descriptor).play S.machine { log := log } with ⟨w, f | ⟨⟩⟩
  · exact hplays.of_error trivial hp
  · obtain ⟨status, hrun, rfl⟩ := hplays.of_ok trivial hp
    exact hrun

/-! ## The log of a replay -/

section log

variable {w : Replay} {a : ReplayStep} {l : List ReplayStep} {f : Fault}

theorem advance_log (w : Replay) (a : ReplayStep) :
    (S.machine.advance w a).log = w.log ++ [(a.call w, S.answer w a)] := by cases a <;> rfl

/-- What has been logged stays logged. -/
theorem log_play (w : Replay) (l : List ReplayStep) : w.log ⊆ (S.machine.play w l).1.log := by
  induction l generalizing w with
  | nil => exact fun c hc => hc
  | cons a l ih =>
    have hadvance : w.log ⊆ (S.machine.advance w a).log := by
      rw [advance_log]
      exact List.subset_append_left _ _
    rw [Machine.play]
    cases S.machine.check w a with
    | some f => exact hadvance
    | none => exact List.Subset.trans hadvance (ih _)

/-- Every call is one of the log before, or one of a step. -/
theorem mem_log_play (w : Replay) (l : List ReplayStep) :
    ∀ c ∈ (S.machine.play w l).1.log, c ∈ w.log ∨ ∃ a ∈ l, ∃ w', c.1 = a.call w' := by
  induction l generalizing w with
  | nil => exact fun c hc => Or.inl hc
  | cons a l ih =>
    intro c hc
    have hadvance : c ∈ (S.machine.advance w a).log → c ∈ w.log ∨ ∃ b ∈ a :: l, ∃ w', c.1 = b.call w' := by
      rw [advance_log]
      intro h
      rcases List.mem_append.1 h with h | h
      · exact Or.inl h
      · exact Or.inr ⟨a, List.mem_cons_self, w, by rw [List.mem_singleton.1 h]⟩
    rw [Machine.play] at hc
    cases hcheck : S.machine.check w a with
    | some f =>
      rw [hcheck] at hc
      exact hadvance hc
    | none =>
      rw [hcheck] at hc
      rcases ih (S.machine.advance w a) c hc with h | ⟨b, hb, w', hcall⟩
      · exact hadvance h
      · exact Or.inr ⟨b, List.mem_cons_of_mem _ hb, w', hcall⟩

/-- Only a call that sets a property stops a replay. -/
theorem play_error (h : (S.machine.play w l).2 = some f) : ∃ status, f = .suite status ∧ status ≠ kOfxStatOK := by
  induction l generalizing w with
  | nil => cases h
  | cons a l ih =>
    rw [Machine.play] at h
    cases hcheck : S.machine.check w a with
    | some f' =>
      rw [hcheck] at h
      obtain ⟨-, hfail, rfl⟩ := check_eq_some.1 hcheck
      exact ⟨_, (Option.some.inj h).symm, hfail⟩
    | none =>
      rw [hcheck] at h
      exact ih h

end log

end MfxProxy
