import MfxProxy.Proof.Defaults

/-!
# Replies with absent fields

In FlatBuffers every field of a table may be absent. `Describe` checks none: it relies on
the remote side, and on assertions for the name and the type of an item.

* `parameter_ends`, `input_ends`, `reply_ends`: the scripts that end well and pass no null string,
  part by part.
* `reply_fails`: how the others end.
* `replaysSafely_iff`: without assertions, these are the replies that are replayed safely.
-/

namespace MfxProxy

open Lib

/-- The names, and the type of a parameter, are not null. -/
def SuiteCall.named : SuiteCall → Bool
  | .paramDefine _ paramType name => paramType.isSome && name.isSome
  | .inputDefine _ name _ => name.isSome
  | _ => true

/-- Every field that `Describe` reads is there, and each item has its name (and type). -/
def ActionDescribeEnd.Complete (action : ActionDescribeEnd) : Prop :=
  ∃ status, action.status = some status ∧ (status.status = kOfxStatOK →
    (∃ l, action.parameters = some l ∧ ∀ p ∈ l, p.Complete) ∧ ∃ l, action.inputs = some l ∧ ∀ m ∈ l, m.Complete)

/-- The reply has been replayed as a whole: the remote status is OK, and each of its parameters and
inputs has been defined. -/
def ActionDescribeEnd.Replayed (action : ActionDescribeEnd) (log : SuiteLog) : Prop :=
  action.status = some ⟨kOfxStatOK⟩ ∧ ∃ parameters inputs, action.parameters = some parameters ∧
    action.inputs = some inputs ∧ (definesOf log).length = parameters.length + inputs.length

/-- A replay has made these calls and ended so: with a status, which is OK only if the reply has been
replayed; without a read through a null pointer; and without a null name or type. -/
structure SafeEnd (action : ActionDescribeEnd) (log : SuiteLog) (result : Except Fault OfxStatus) : Prop where
  status : ∃ status, MainEntry result = .ok status ∧ (¬ action.Replayed log → status ≠ kOfxStatOK)
  present : result ≠ .error .undefined
  named : ∀ c ∈ log, c.1.named = true

/-- Without assertions, `Describe` is safe on every host. -/
def ReplaysSafely (action : ActionDescribeEnd) : Prop :=
  ∀ (S : Suites) (descriptor : ℕ), SafeEnd action ((S.replayDescribe true descriptor action).run []).1
    ((S.replayDescribe true descriptor action).run []).2

/-- The same of a step. -/
def ReplayStep.Named (a : ReplayStep) : Prop := (a.call {}).named = true

theorem named_call (w : Replay) (a : ReplayStep) : (a.call w).named = true ↔ a.Named := by cases a <;> exact Iff.rfl

section parts

variable {skip : List String} {descriptor : ℕ}

theorem need_ends {α : Type} {field : Option α} {f : α → Script ReplayStep Fault} :
    (need field f).Ends ReplayStep.Named ↔ ∃ a, field = some a ∧ (f a).Ends ReplayStep.Named := by
  cases field with
  | none => simp [need]
  | some a => simp [need]

theorem setsPlan_ends {α β : Type} {value : Option α} {values : α → Option (List β)} {set : ℕ → β → ReplayStep}
    (hset : ∀ j b, (set j b).Named) :
    (setsPlan value values set).Ends ReplayStep.Named ↔ ∃ v l, value = some v ∧ values v = some l := by
  have hsteps : ∀ l : List β, Script.Ends ReplayStep.Named
      ({ steps := l.zipIdx.map fun p => set p.2 p.1 } : Script ReplayStep Fault) := by
    intro l
    refine ⟨rfl, fun a ha => ?_⟩
    obtain ⟨p, -, rfl⟩ := List.mem_map.1 ha
    exact hset p.2 p.1
  rw [setsPlan, need_ends]
  simp only [need_ends, hsteps, and_true, exists_and_left]

theorem value_ends {name : CStr} {value : OfxPropertyValue} :
    (value.plan name).Ends ReplayStep.Named ↔ value.present := by
  cases value with
  | NONE => exact iff_of_true Script.ends_empty trivial
  | OfxPropertyPointerValue value => exact iff_of_true Script.ends_empty trivial
  | OfxPropertyIntNValue value => exact setsPlan_ends fun _ _ => rfl
  | OfxPropertyFloatNValue value => exact setsPlan_ends fun _ _ => rfl
  | OfxPropertyStringNValue value => exact setsPlan_ends fun _ _ => rfl

theorem property_ends {p : OfxProperty} : (p.plan skip).Ends ReplayStep.Named ↔ p.readable skip := by
  rw [OfxProperty.plan, need_ends, OfxProperty.readable]
  refine exists_congr fun name => and_congr_right fun _ => ?_
  by_cases hskip : name ∈ skip
  · rw [if_pos hskip]
    exact iff_of_true Script.ends_empty (Or.inl hskip)
  · rw [if_neg hskip, value_ends, or_iff_right hskip]

theorem properties_ends {l : List OfxProperty} :
    (Script.all (l.map (·.plan skip))).Ends ReplayStep.Named ↔ ∀ p ∈ l, p.readable skip := by
  rw [Script.ends_all, List.forall_mem_map]
  exact forall₂_congr fun p _ => property_ends

theorem parameter_ends {parameter : OfxParameter} :
    (parameter.plan true).Ends ReplayStep.Named ↔ parameter.Complete := by
  have hdefine : ∀ l, Script.Ends ReplayStep.Named
      ({ steps := [.paramDefine (found kOfxParamPropType l) (found kOfxPropName l)] } : Script ReplayStep Fault) ↔
      Has kOfxPropName l ∧ Has kOfxParamPropType l := by
    intro l
    simp [Script.Ends, ReplayStep.Named, ReplayStep.call, SuiteCall.named, found_isSome, and_comm]
  rw [OfxParameter.plan, need_ends]
  constructor
  · rintro ⟨l, hl, hends⟩
    by_cases hun : Unnamed l
    · rw [if_pos hun] at hends
      exact absurd hends Script.not_ends_stop
    · rw [if_neg hun, if_pos (Or.inl rfl), Script.ends_append, hdefine, properties_ends] at hends
      refine ⟨⟨l, hl, hends.2⟩, ?_⟩
      rintro l' hl'
      rw [hl] at hl'
      cases hl'
      exact hends.1
  · rintro ⟨⟨l, hl, hread⟩, hhas⟩
    refine ⟨l, hl, ?_⟩
    rw [if_neg (not_unnamed hread), if_pos (Or.inl rfl), Script.ends_append, hdefine, properties_ends]
    exact ⟨hhas l hl, hread⟩

theorem input_ends {input : OfxMesh} : (input.plan true descriptor).Ends ReplayStep.Named ↔ input.Complete := by
  have hdefine : ∀ l, Script.Ends ReplayStep.Named
      ({ steps := [.inputDefine descriptor (found kOfxPropName l)] } : Script ReplayStep Fault) ↔
      Has kOfxPropName l := by
    intro l
    simp [Script.Ends, ReplayStep.Named, ReplayStep.call, SuiteCall.named, found_isSome]
  rw [OfxMesh.plan, need_ends]
  constructor
  · rintro ⟨l, hl, hends⟩
    by_cases hun : Unnamed l
    · rw [if_pos hun] at hends
      exact absurd hends Script.not_ends_stop
    · rw [if_neg hun, if_pos (Or.inl rfl), Script.ends_append, hdefine, need_ends] at hends
      obtain ⟨hname, attributes, hattr, hprops⟩ := hends
      refine ⟨⟨⟨l, hl, properties_ends.1 hprops⟩, by simp [hattr]⟩, ?_⟩
      rintro l' hl'
      rw [hl] at hl'
      cases hl'
      exact hname
  · rintro ⟨⟨⟨l, hl, hread⟩, hattributes⟩, hhas⟩
    obtain ⟨attributes, hattr⟩ := Option.ne_none_iff_exists'.1 hattributes
    refine ⟨l, hl, ?_⟩
    rw [if_neg (not_unnamed hread), if_pos (Or.inl rfl), Script.ends_append, hdefine, need_ends]
    exact ⟨hhas l hl, attributes, hattr, properties_ends.2 hread⟩

end parts

/-! ## Faults of a script -/

/-- The faults of a reply with status OK: an absent field or, with assertions, one that
fails. -/
def AbsentFault (ndebug : Bool) (f : Fault) : Prop := f = .undefined ∨ ndebug = false ∧ f = .assert

section faults

variable {ndebug : Bool} {skip : List String} {descriptor : ℕ}

theorem need_fails {α : Type} {field : Option α} {f : α → Script ReplayStep Fault}
    (h : ∀ a, field = some a → (f a).Fails (AbsentFault ndebug)) : (need field f).Fails (AbsentFault ndebug) := by
  cases field with
  | none =>
    rintro e ⟨⟩
    exact Or.inl rfl
  | some a => exact h a rfl

theorem setsPlan_fails {α β : Type} {value : Option α} {values : α → Option (List β)} {set : ℕ → β → ReplayStep} :
    (setsPlan value values set).Fails (AbsentFault ndebug) :=
  need_fails fun _ _ => need_fails fun _ _ => Script.fails_of_ends rfl

theorem property_fails {p : OfxProperty} : (p.plan skip).Fails (AbsentFault ndebug) := by
  refine need_fails fun name _ => ?_
  by_cases hskip : name ∈ skip
  · rw [if_pos hskip]
    exact Script.fails_of_ends rfl
  · rw [if_neg hskip]
    cases p.value with
    | NONE => exact Script.fails_of_ends rfl
    | OfxPropertyPointerValue value => exact Script.fails_of_ends rfl
    | OfxPropertyIntNValue value => exact setsPlan_fails
    | OfxPropertyFloatNValue value => exact setsPlan_fails
    | OfxPropertyStringNValue value => exact setsPlan_fails

theorem fails_map {α : Type} {l : List α} {plan : α → Script ReplayStep Fault}
    (h : ∀ a, (plan a).Fails (AbsentFault ndebug)) : (Script.all (l.map plan)).Fails (AbsentFault ndebug) := by
  refine Script.fails_all fun p hp => ?_
  obtain ⟨a, -, rfl⟩ := List.mem_map.1 hp
  exact h a

/-- The checks of an item on its properties. -/
theorem checks_fails {l : List OfxProperty} {c : Prop} [Decidable c] {p : Script ReplayStep Fault}
    (hp : p.Fails (AbsentFault ndebug)) :
    (if Unnamed l then .stop .undefined else if ndebug ∨ c then p else .stop .assert : Script ReplayStep Fault).Fails
      (AbsentFault ndebug) := by
  by_cases hun : Unnamed l
  · rw [if_pos hun]
    rintro e ⟨⟩
    exact Or.inl rfl
  rw [if_neg hun]
  by_cases hc : ndebug = true ∨ c
  · rwa [if_pos hc]
  · rw [if_neg hc]
    rintro e ⟨⟩
    exact Or.inr ⟨by simpa using fun h => hc (Or.inl h), rfl⟩

theorem parameter_fails {parameter : OfxParameter} : (parameter.plan ndebug).Fails (AbsentFault ndebug) :=
  need_fails fun _ _ => checks_fails
    (Script.fails_append (Script.fails_of_ends rfl) (fails_map fun _ => property_fails))

theorem input_fails {input : OfxMesh} : (input.plan ndebug descriptor).Fails (AbsentFault ndebug) :=
  need_fails fun _ _ => checks_fails (Script.fails_append (Script.fails_of_ends rfl)
    (need_fails fun _ _ => fails_map fun _ => property_fails))

theorem reply_fails {action : ActionDescribeEnd} {status : FbOfxStatus} (hstatus : action.status = some status)
    (hok : status.status = kOfxStatOK) : (action.plan ndebug descriptor).Fails (AbsentFault ndebug) := by
  rw [ActionDescribeEnd.plan, hstatus, need, if_pos hok]
  exact Script.fails_append (Script.fails_of_ends rfl) (Script.fails_append
    (need_fails fun _ _ => fails_map fun _ => parameter_fails) (need_fails fun _ _ => fails_map fun _ => input_fails))

end faults

/-! ## The whole reply -/

section reply

variable {S : Suites} {descriptor : ℕ} {action : ActionDescribeEnd} {status : FbOfxStatus}

/-- The replay of a reply with status OK ends well, and passes no null string, exactly when
the reply is complete. -/
theorem reply_ends (descriptor : ℕ) (hstatus : action.status = some status) (hok : status.status = kOfxStatOK) :
    (action.plan true descriptor).Ends ReplayStep.Named ↔ action.Complete := by
  have hfirst : Script.Ends ReplayStep.Named ({ steps := [.getParamSet descriptor] } : Script ReplayStep Fault) := by
    simp [Script.Ends, ReplayStep.Named, ReplayStep.call, SuiteCall.named]
  have hcomplete : action.Complete ↔ (∃ l, action.parameters = some l ∧ ∀ p ∈ l, p.Complete) ∧
      ∃ l, action.inputs = some l ∧ ∀ m ∈ l, m.Complete := by
    simp [ActionDescribeEnd.Complete, hstatus, hok]
  rw [ActionDescribeEnd.plan, hstatus, need, if_pos hok, Script.ends_append, Script.ends_append, need_ends, need_ends,
    and_iff_right hfirst, hcomplete]
  refine and_congr ?_ ?_
  · refine exists_congr fun l => and_congr_right fun _ => ?_
    rw [Script.ends_all, List.forall_mem_map]
    exact forall₂_congr fun p _ => parameter_ends
  · refine exists_congr fun l => and_congr_right fun _ => ?_
    rw [Script.ends_all, List.forall_mem_map]
    exact forall₂_congr fun m _ => input_ends

/-- On a host whose calls all succeed the whole script is played. -/
theorem obliging_play (l : List ReplayStep) (w : Replay) : (Suites.obliging.machine.play w l).2 = none ∧
    ∀ a ∈ l, ∃ w' status, (a.call w', status) ∈ (Suites.obliging.machine.play w l).1.log := by
  induction l generalizing w with
  | nil => simp [Machine.play]
  | cons a l ih =>
    have hcheck : Suites.obliging.machine.check w a = none := check_eq_none.2 fun _ => rfl
    rw [Machine.play, hcheck]
    obtain ⟨hnone, hcalls⟩ := ih (Suites.obliging.machine.advance w a)
    refine ⟨hnone, List.forall_mem_cons.2 ⟨⟨w, kOfxStatOK, ?_⟩, hcalls⟩⟩
    refine log_play _ _ ?_
    rw [advance_log]
    exact List.mem_append_right _ List.mem_cons_self

/-- What a step defines, which does not depend on the handles. -/
def ReplayStep.define? (a : ReplayStep) : Option Define := (a.call {}).define?

theorem define?_call (w : Replay) (a : ReplayStep) : (a.call w).define? = a.define? := by cases a <;> rfl

/-- The definitions of a replay that is not stopped. -/
theorem definesOf_walk (w : Replay) (l : List ReplayStep) :
    definesOf (S.machine.walk w l).log = definesOf w.log ++ l.filterMap ReplayStep.define? := by
  induction l generalizing w with
  | nil => exact (List.append_nil _).symm
  | cons a l ih =>
    have hone : definesOf [(a.call w, S.answer w a)] = [a].filterMap ReplayStep.define? := by
      rw [definesOf, List.filterMap_cons, List.filterMap_cons, define?_call]
      cases a.define? <;> rfl
    rw [Machine.walk_cons, ih, advance_log, definesOf_append, hone, List.append_assoc, ← List.filterMap_append,
      List.singleton_append]

/-- The steps of an item make one definition. -/
theorem defines_steps {items : List ReplayItem} (hitems : ∀ item ∈ items, item.Complete) (descriptor : ℕ) :
    (items.flatMap (·.steps descriptor)).filterMap ReplayStep.define? = items.map (·.define) := by
  induction items with
  | nil => rfl
  | cons item items ih =>
    obtain ⟨hitem, hitems⟩ := List.forall_mem_cons.1 hitems
    have hfirst : (item.define.step descriptor).define? = some item.define := hitem.define descriptor {}
    have hsets : item.setSteps.filterMap ReplayStep.define? = [] := by
      rw [List.filterMap_eq_nil_iff]
      intro a ha
      apply define?_of_isSet
      rw [isSet_call]
      exact hitem.isSet a ha
    rw [List.flatMap_cons, List.filterMap_append, ih hitems, ReplayItem.steps, List.filterMap_cons_some hfirst, hsets]
    rfl

/-- A complete reply whose replay is not stopped has been replayed. -/
theorem replayed_of_clear (hcomplete : action.Complete) (hstatus : action.status = some status)
    (hok : status.status = kOfxStatOK) (hclear : S.machine.Clear {} (action.plan true descriptor).steps) :
    action.Replayed (S.machine.play {} (action.plan true descriptor).steps).1.log := by
  obtain ⟨status', hstatus', hfields⟩ := hcomplete
  obtain rfl : status = status' := Option.some.inj (hstatus.symm.trans hstatus')
  obtain ⟨⟨parameters, hparameters, hparam⟩, inputs, hinputs, hinput⟩ := hfields hok
  have hitems := replayItems_complete hparam hinput
  have haction : action = ⟨some ⟨kOfxStatOK⟩, some inputs, some parameters⟩ := by
    obtain ⟨_, _, _⟩ := action
    obtain ⟨_⟩ := status
    simp_all
  refine ⟨by rw [haction], parameters, inputs, hparameters, hinputs, ?_⟩
  rw [Machine.play_clear hclear, definesOf_walk, haction, complete_plan hparam hinput,
    List.filterMap_cons_none rfl, defines_steps hitems]
  simp [definesOf, replayItems]

/-- **Which replies are replayed safely** without assertions: those that are complete. -/
theorem replaysSafely_iff (action : ActionDescribeEnd) : ReplaysSafely action ↔ action.Complete := by
  constructor
  · intro hsafe
    obtain ⟨hstatus, hundefined, hnamed⟩ := hsafe .obliging 0
    rw [replayDescribe_run, Script.play] at hstatus hundefined hnamed
    obtain ⟨hnone, hcalls⟩ := obliging_play (action.plan true 0).steps {}
    rcases hplay : Suites.obliging.machine.play {} (action.plan true 0).steps with ⟨w, f | _⟩
    · rw [hplay] at hcalls hstatus hundefined hnamed
      cases hs : action.status with
      | none =>
        -- the status itself is absent
        have hfault : (action.plan true 0).fault = some .undefined := by rw [ActionDescribeEnd.plan, hs]; rfl
        rw [hfault] at hundefined
        exact absurd rfl hundefined
      | some status =>
        by_cases hok : status.status = kOfxStatOK
        · rw [← reply_ends 0 hs hok]
          cases hfault : (action.plan true 0).fault with
          | none =>
            refine ⟨hfault, fun a ha => ?_⟩
            obtain ⟨w', st, hcall⟩ := hcalls a ha
            rw [hfault] at hnamed
            exact (named_call w' a).1 (hnamed _ hcall)
          | some f =>
            rcases reply_fails hs hok f hfault with rfl | ⟨hndebug, -⟩
            · rw [hfault] at hundefined
              exact absurd rfl hundefined
            · cases hndebug
        · exact ⟨status, hs, fun h => absurd h hok⟩
    · rw [hplay] at hnone
      cases hnone
  · rintro hcomplete S descriptor
    obtain ⟨status, hs, -⟩ := id hcomplete
    by_cases hok : status.status = kOfxStatOK
    · obtain ⟨hfault, hsteps⟩ := (reply_ends descriptor hs hok).2 hcomplete
      have hlog : ∀ c ∈ (S.machine.play {} (action.plan true descriptor).steps).1.log, c.1.named = true := by
        intro c hc
        rcases mem_log_play _ _ c hc with h | ⟨a, ha, w', hcall⟩
        · cases h
        · rw [hcall]
          exact (named_call w' a).2 (hsteps a ha)
      rw [replayDescribe_run, Script.play, hfault]
      rcases hplay : S.machine.play {} (action.plan true descriptor).steps with ⟨w, f | f⟩
      · have hreplayed := replayed_of_clear hcomplete hs hok (Machine.clear_iff.2 (congrArg Prod.snd hplay))
        rw [hplay] at hlog hreplayed
        exact ⟨⟨kOfxStatOK, rfl, fun h => absurd hreplayed h⟩, by simp [Except.map], hlog⟩
      · obtain ⟨st, rfl, hfailed⟩ := play_error (congrArg Prod.snd hplay)
        rw [hplay] at hlog
        exact ⟨⟨st, rfl, fun _ => hfailed⟩, by simp [Except.map], hlog⟩
    · -- a status that is not OK ends the action at once
      have hplan : action.plan true descriptor = .stop (.suite status.status) := by
        rw [ActionDescribeEnd.plan, hs, need, if_neg hok]
      rw [replayDescribe_run, hplan]
      exact ⟨⟨status.status, rfl, fun _ => hok⟩, by simp [Script.play, Script.stop, Machine.play, Except.map],
        by simp [Script.play, Script.stop, Machine.play]⟩

end reply

/-- A parameter without a name is defined by a null one, and a status that is absent is read
through a null pointer. -/
theorem partial_reply_unsafe :
    (Suites.obliging.replayDescribe true 0 ⟨some ⟨kOfxStatOK⟩, some [], some [⟨some []⟩]⟩).run [] =
      ([(.getParamSet 0, kOfxStatOK), (.paramDefine (some 0) none none, kOfxStatOK)], .ok kOfxStatOK) ∧
    (Suites.obliging.replayDescribe true 0 ⟨none, some [], some []⟩).run [] = ([], .error .undefined) ∧
    ¬ ReplaysSafely ⟨some ⟨kOfxStatOK⟩, some [], some [⟨some []⟩]⟩ ∧ ¬ ReplaysSafely ⟨none, some [], some []⟩ := by
  refine ⟨rfl, rfl, fun h => ?_, fun h => ?_⟩
  · have hdefine := (h .obliging 0).named (.paramDefine (some 0) none none, kOfxStatOK) (by decide +kernel)
    cases hdefine
  · exact (h .obliging 0).present rfl

end MfxProxy
