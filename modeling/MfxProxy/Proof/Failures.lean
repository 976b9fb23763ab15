import MfxProxy.Proof.Replay

/-!
# Calls that fail during `Describe`

`Describe` checks the calls that set a property. A call of `getParamSet`, `paramDefine` or
`inputDefine` that fails goes unnoticed: the replay goes on with a handle that was never
written, and returns OK unless something else stops it.

* `noticesFailures_iff`: when no failure goes unnoticed.
-/

namespace MfxProxy

open Lib

/-- The handles that the call passes have been written. -/
def SuiteCall.onWritten : SuiteCall → Bool
  | .paramDefine paramSet _ _ => paramSet.isSome
  | .propSetInt props .. | .propSetDouble props .. | .propSetString props .. => props.isSome
  | .getParamSet _ | .inputDefine .. => true

/-- `Describe` returns OK only if every call it made returned OK, and no call passes a handle
whose producing call has failed. -/
def Suites.NoticesFailures (S : Suites) (ndebug : Bool) (descriptor : ℕ) (action : ActionDescribeEnd) : Prop :=
  let (log, result) := (S.replayDescribe ndebug descriptor action).run []
  (result = .ok kOfxStatOK → ∀ c ∈ log, c.2 = kOfxStatOK) ∧ ∀ c ∈ log, c.1.onWritten = true

/-- After a failure: without a call on a handle that has not been written, the script comes
to its fault, or to a property that cannot be set. -/
def Suites.StopsFirst (S : Suites) (fault : Option Fault) : Replay → List ReplayStep → Prop
  | _, [] => fault ≠ none
  | w, a :: l =>
    (a.call w).onWritten = true ∧ (S.machine.check w a ≠ none ∨ S.StopsFirst fault (S.machine.advance w a) l)

/-- The first call of the script that fails, if any does, sets a property, or the script
stops before it comes to a call on a handle that has not been written. -/
def Suites.FailsSafely (S : Suites) (fault : Option Fault) : Replay → List ReplayStep → Prop
  | _, [] => True
  | w, a :: l =>
    if S.answer w a = kOfxStatOK then S.FailsSafely fault (S.machine.advance w a) l
    else a.isSet = true ∨ S.StopsFirst fault (S.machine.advance w a) l

section failures

variable {S : Suites} {fault : Option Fault} {w : Replay} {a : ReplayStep} {l : List ReplayStep}

theorem onWritten_advance : (∀ c ∈ (S.machine.advance w a).log, c.1.onWritten = true) ↔
    (∀ c ∈ w.log, c.1.onWritten = true) ∧ (a.call w).onWritten = true := by
  rw [advance_log, List.forall_mem_append]
  simp

/-- After a failure it is the end that counts. -/
theorem stopsFirst_iff (w : Replay) (l : List ReplayStep) :
    ((∀ c ∈ (S.machine.play w l).1.log, c.1.onWritten = true) ∧ ¬((S.machine.play w l).2 = none ∧ fault = none)) ↔
      (∀ c ∈ w.log, c.1.onWritten = true) ∧ S.StopsFirst fault w l := by
  induction l generalizing w with
  | nil => simp [Machine.play, Suites.StopsFirst]
  | cons a l ih =>
    rw [Machine.play, Suites.StopsFirst]
    cases hcheck : S.machine.check w a with
    | some f =>
      rw [onWritten_advance]
      simp
    | none =>
      rw [ih, onWritten_advance, and_assoc]
      simp

/-- Both handles have been written. -/
def Replay.Written (w : Replay) : Prop := w.paramSet.isSome = true ∧ w.props.isSome = true

theorem Replay.Written.call (h : w.Written) (a : ReplayStep) : (a.call w).onWritten = true := by
  cases a <;> first | rfl | exact h.1 | exact h.2

theorem Replay.Written.advance (h : w.Written) (ha : S.answer w a = kOfxStatOK) : (S.machine.advance w a).Written := by
  have hout : (S.output w a).isSome = true := by rw [Suites.output, if_pos ha, Option.isSome_some]
  cases a <;> first | exact h | exact ⟨hout, h.2⟩ | exact ⟨h.1, hout⟩

/-- Before any failure. -/
theorem failsSafely_iff (hw : w.Written) (hlog : ∀ c ∈ w.log, c.2 = kOfxStatOK ∧ c.1.onWritten = true) :
    ((∀ c ∈ (S.machine.play w l).1.log, c.1.onWritten = true) ∧
      ((S.machine.play w l).2 = none ∧ fault = none → ∀ c ∈ (S.machine.play w l).1.log, c.2 = kOfxStatOK)) ↔
      S.FailsSafely fault w l := by
  induction l generalizing w with
  | nil =>
    have hwritten : ∀ c ∈ w.log, c.1.onWritten = true := fun c hc => (hlog c hc).2
    have hok : ∀ c ∈ w.log, c.2 = kOfxStatOK := fun c hc => (hlog c hc).1
    exact iff_of_true ⟨hwritten, fun _ => hok⟩ trivial
  | cons a l ih =>
    have hwritten : ∀ c ∈ (S.machine.advance w a).log, c.1.onWritten = true :=
      onWritten_advance.2 ⟨fun c hc => (hlog c hc).2, hw.call a⟩
    rw [Machine.play, Suites.FailsSafely]
    by_cases ha : S.answer w a = kOfxStatOK
    · have hlog' : ∀ c ∈ (S.machine.advance w a).log, c.2 = kOfxStatOK ∧ c.1.onWritten = true := by
        intro c hc
        refine ⟨?_, hwritten c hc⟩
        rw [advance_log] at hc
        rcases List.mem_append.1 hc with hc | hc
        · exact (hlog c hc).1
        · rw [List.mem_singleton.1 hc, ha]
      rw [if_pos ha, check_eq_none.2 fun _ => ha]
      exact ih (hw.advance ha) hlog'
    · rw [if_neg ha]
      by_cases hset : a.isSet = true
      · -- the failure of a call that is checked ends the replay
        rw [check_eq_some.2 ⟨hset, ha, rfl⟩]
        exact iff_of_true ⟨hwritten, fun h => by cases h.1⟩ (Or.inl hset)
      · rw [check_eq_none.2 fun h => absurd h hset]
        have hfailed : ¬ ∀ c ∈ (S.machine.play (S.machine.advance w a) l).1.log, c.2 = kOfxStatOK := by
          intro hall
          exact ha (hall (a.call w, S.answer w a) (log_play _ _ (by rw [advance_log]; simp)))
        rw [show (a.isSet = true ∨ S.StopsFirst fault (S.machine.advance w a) l) ↔ _ from or_iff_right hset,
          ← and_iff_right hwritten (b := S.StopsFirst fault (S.machine.advance w a) l), ← stopsFirst_iff]
        exact and_congr_right fun _ => imp_congr_right fun _ => iff_false_intro hfailed

/-- The replay of a reply, seen through its script. -/
theorem noticesFailures_script {ndebug : Bool} {descriptor : ℕ} {action : ActionDescribeEnd} :
    S.NoticesFailures ndebug descriptor action ↔
      (∀ c ∈ (S.machine.play {} (action.plan ndebug descriptor).steps).1.log, c.1.onWritten = true) ∧
        ((S.machine.play {} (action.plan ndebug descriptor).steps).2 = none ∧
            (action.plan ndebug descriptor).fault = none →
          ∀ c ∈ (S.machine.play {} (action.plan ndebug descriptor).steps).1.log, c.2 = kOfxStatOK) := by
  rw [Suites.NoticesFailures, replayDescribe_run, Script.play]
  rcases S.machine.play {} (action.plan ndebug descriptor).steps with ⟨w, f | _⟩
  · cases (action.plan ndebug descriptor).fault with
    | none => simp [Except.map, and_comm]
    | some f => simp [Except.map]
  · simp [Except.map]

/-- **When `Describe` notices failures**, for every reply and every host.

`Describe` returns OK only if every call returned OK, and passes no handle whose producing
call failed, exactly when the first call that fails sets a property, or else the replay
stops, on an absent field, a failed assertion or a property that cannot be set, before it
comes to a call on a handle that was not written. -/
theorem noticesFailures_iff (S : Suites) (ndebug : Bool) (descriptor : ℕ) (action : ActionDescribeEnd) :
    S.NoticesFailures ndebug descriptor action ↔
      S.FailsSafely (action.plan ndebug descriptor).fault {} (action.plan ndebug descriptor).steps := by
  rw [noticesFailures_script]
  exact failsSafely_iff ⟨rfl, rfl⟩ (by simp)

end failures

/-- A host that defines no parameters. -/
def Suites.inputsOnly : Suites where
  status _ c := match c with
    | .paramDefine .. => kOfxStatFailed
    | _ => kOfxStatOK
  handle log _ := log.length

/-- A reply with status OK and one parameter, which has a default value. -/
def radiusReply : ActionDescribeEnd where
  status := some ⟨kOfxStatOK⟩
  inputs := some []
  parameters := some [⟨some
    [⟨some kOfxPropName, .NONE⟩, ⟨some kOfxParamPropType, .NONE⟩,
     ⟨some "OfxParamPropDefault", .OfxPropertyIntNValue (some ⟨some [7]⟩)⟩]⟩]

/-- The parameter is not defined, its default value is set on a handle that was never
written, and `Describe` returns OK. -/
theorem failed_define_unnoticed :
    (Suites.inputsOnly.replayDescribe false 0 radiusReply).run [] =
      ([(.getParamSet 0, kOfxStatOK),
        (.paramDefine (some 0) (some (c_str kOfxParamPropType)) (some (c_str kOfxPropName)), kOfxStatFailed),
        (.propSetInt none (c_str "OfxParamPropDefault") 0 7, kOfxStatOK)], .ok kOfxStatOK) ∧
    ¬ Suites.inputsOnly.NoticesFailures false 0 radiusReply := by
  have hrun : (Suites.inputsOnly.replayDescribe false 0 radiusReply).run [] =
      ([(.getParamSet 0, kOfxStatOK),
        (.paramDefine (some 0) (some (c_str kOfxParamPropType)) (some (c_str kOfxPropName)), kOfxStatFailed),
        (.propSetInt none (c_str "OfxParamPropDefault") 0 7, kOfxStatOK)], .ok kOfxStatOK) := by rfl
  refine ⟨hrun, ?_⟩
  rw [Suites.NoticesFailures, hrun]
  rintro ⟨-, hwritten⟩
  have hset := hwritten (.propSetInt none (c_str "OfxParamPropDefault") 0 7, kOfxStatOK) (by simp)
  cases hset

end MfxProxy
