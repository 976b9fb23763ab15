import MfxProxy.Proof.Pairing
import MfxProxy.Spec.System

/-!
# An effect does not look at what it has sent

Answers apart, an event of an effect only adds to `unanswered`. What stands there before
makes no difference to it, so that requests on their way through the brokers may be
counted in or left out.

* `effectStep_prepend`: the same event goes the same way with more requests sent before.
* `effectStep_sent`: what an event adds is the request that it sends.
-/

namespace MfxProxy

open Lib

variable {τ : Type} {P : Platform} {S : Suites} {ndebug : Bool} {e : UInt32}

variable {s s' : EffectSession τ} {ev : EffectEvent τ}

/-- The state with more requests sent before. -/
def EffectState.prepend (s : EffectState) (pre : List Bytes) : EffectState :=
  { s with unanswered := pre ++ s.unanswered }

def EffectSession.prepend (s : EffectSession τ) (pre : List Bytes) : EffectSession τ :=
  { s with effect := s.effect.prepend pre }

@[simp] theorem EffectState.prepend_nil (s : EffectState) : s.prepend [] = s := rfl

@[simp] theorem EffectSession.prepend_nil (s : EffectSession τ) : s.prepend [] = s := rfl

/-! ## The code of an effect -/

theorem act_prepend (pre : List Bytes) (a : EffectAction) (m : Bytes) (x : EffectState) :
    (EffectCode.act P S ndebug a m).run (x.prepend pre) =
      (((EffectCode.act P S ndebug a m).run x).1.prepend pre, ((EffectCode.act P S ndebug a m).run x).2) := by
  cases a with
  | Load =>
    unfold EffectCode.act
    cases P.message_as .ActionLoadEnd m <;> rfl
  | Unload =>
    unfold EffectCode.act
    cases P.message_as .ActionUnloadEnd m <;> rfl
  | Describe descriptor =>
    unfold EffectCode.act
    cases P.message_as .ActionDescribeEnd m <;> rfl

theorem finish_prepend (pre : List Bytes) (a : EffectAction) (m : Bytes) (x : EffectState) :
    (EffectCode.finish P S ndebug e a m).run (x.prepend pre) =
      (((EffectCode.finish P S ndebug e a m).run x).1.prepend pre,
        ((EffectCode.finish P S ndebug e a m).run x).2) := by
  unfold EffectCode.finish
  cases EffectCode.receive_message P ndebug e m with
  | error f => rfl
  | ok m =>
    rw [Prog.lift_ok_bind]
    exact act_prepend pre a m x

/-! ## The events -/

theorem sendRequest_prepend (pre : List Bytes) (t : τ) (a : EffectAction) (id : UInt32) :
    (s.prepend pre).sendRequest P e t a id = (s.sendRequest P e t a id).prepend pre := by
  by_cases hpub : s.effect.m_pub_socket = true
  · simp [EffectSession.sendRequest, EffectCode.send_message, EffectSession.prepend, EffectState.prepend, hpub,
      EffectSession.goto]
  · simp [EffectSession.sendRequest, EffectCode.send_message, EffectSession.prepend, EffectState.prepend, hpub,
      EffectSession.goto, EffectSession.run]

theorem takeMessage_prepend (pre : List Bytes) :
    (s.prepend pre).takeMessage = s.takeMessage.map fun (m, s) => (m, s.prepend pre) := by
  rcases s with ⟨⟨_, _ | _ | ⟨m, ms⟩, _, _⟩, _, _, _⟩ <;> rfl

theorem accepts_prepend (pre : List Bytes) : (s.prepend pre).accepts P ev = s.accepts P ev := by
  cases ev with
  | receive =>
    have hlock : (s.prepend pre).m_effect_lock = s.m_effect_lock := rfl
    unfold EffectSession.accepts
    rw [takeMessage_prepend, hlock]
    cases s.takeMessage with
    | none => rfl
    | some p =>
      cases s.m_effect_lock with
      | none => rfl
      | some holder =>
        obtain ⟨t, phase⟩ := holder
        cases phase <;> rfl
  | _ => rfl

/-- **The same event with more requests sent before.** -/
theorem effectStep_prepend (pre : List Bytes) (hev : ev.isAnswer = false)
    (h : effectStep P S ndebug e s ev = some s') :
    effectStep P S ndebug e (s.prepend pre) ev = some (s'.prepend pre) := by
  have hlock : (s.prepend pre).m_effect_lock = s.m_effect_lock := rfl
  cases ev with
  | enter t a =>
    simp only [effectStep, hlock] at h ⊢
    split at h
    · obtain rfl := Option.some.inj h
      rfl
    · cases h
  | connect =>
    simp only [effectStep, hlock] at h ⊢
    split at h
    · obtain rfl := Option.some.inj h
      rfl
    · cases h
  | request id =>
    simp only [effectStep, hlock] at h ⊢
    split at h
    · rw [Option.ite_none_left_eq_some] at h
      obtain ⟨hfresh, h⟩ := h
      obtain rfl := Option.some.inj h
      have hgen : (s.prepend pre).generated = s.generated := rfl
      rw [hgen, if_neg hfresh, sendRequest_prepend]
    · cases h
  | answer T message id => cases hev
  | receive =>
    simp only [effectStep, hlock] at h ⊢
    split at h
    · rename_i t a id hphase
      obtain ⟨⟨m, s₁⟩, htake, rfl⟩ := Option.map_eq_some_iff.1 h
      rw [takeMessage_prepend, htake]
      have hrun := @finish_prepend P S ndebug e pre a m s₁.effect
      simp only [Option.map_some, EffectSession.run, EffectSession.prepend, EffectSession.goto, hrun]
    · cases h
  | receiveError =>
    simp only [effectStep, hlock] at h ⊢
    split at h
    · obtain rfl := Option.some.inj h
      rfl
    · cases h
  | leave =>
    simp only [effectStep, hlock] at h ⊢
    split at h
    · obtain rfl := Option.some.inj h
      rfl
    · rw [Option.ite_none_left_eq_some] at h
      obtain ⟨hfatal, h⟩ := h
      obtain rfl := Option.some.inj h
      rw [if_neg hfatal]
      rfl
    · cases h

/-- The request that an event sends. -/
def EffectSession.sends (P : Platform) (e : UInt32) (s : EffectSession τ) : EffectEvent τ → List Bytes
  | .request id =>
    match s.m_effect_lock with
    | some (_, .requesting a) => if s.effect.m_pub_socket then [a.request P e id] else []
    | _ => []
  | _ => []

/-- It is a request of this effect. -/
theorem mem_sends {m : Bytes} (hm : m ∈ s.sends P e ev) : ∃ (a : EffectAction) (id : UInt32), m = a.request P e id := by
  cases ev with
  | request id =>
    simp only [EffectSession.sends] at hm
    split at hm
    · rename_i t a hlock
      split at hm
      · exact ⟨a, id, List.mem_singleton.1 hm⟩
      · cases hm
    · cases hm
  | _ => cases hm

/-- **What an event adds is the request that it sends.** -/
theorem effectStep_sent (hev : ev.isAnswer = false) (h : effectStep P S ndebug e s ev = some s') :
    s'.effect.unanswered = s.effect.unanswered ++ s.sends P e ev := by
  have hsame : s.sends P e ev = [] → s'.effect.unanswered = s.effect.unanswered →
      s'.effect.unanswered = s.effect.unanswered ++ s.sends P e ev := by
    intro hnil h
    rw [hnil, List.append_nil, h]
  cases ev with
  | enter t a =>
    simp only [effectStep] at h
    split at h <;> cases h
    exact hsame rfl rfl
  | connect =>
    simp only [effectStep] at h
    split at h <;> cases h
    exact hsame rfl rfl
  | request id =>
    simp only [effectStep] at h
    split at h <;> try cases h
    rename_i t a hlock
    rw [Option.ite_none_left_eq_some] at h
    obtain ⟨-, h⟩ := h
    obtain rfl := Option.some.inj h
    by_cases hpub : s.effect.m_pub_socket = true
    · simp [EffectSession.sends, hlock, EffectSession.sendRequest, EffectCode.send_message, hpub, EffectSession.goto]
    · simp [EffectSession.sends, hlock, EffectSession.sendRequest, EffectCode.send_message, hpub, EffectSession.run,
        EffectSession.goto]
  | answer T message id => cases hev
  | receive =>
    simp only [effectStep] at h
    split at h
    · rename_i t a id hlock
      obtain ⟨⟨m, s₁⟩, htake, rfl⟩ := Option.map_eq_some_iff.1 h
      obtain ⟨ms, -, rfl⟩ := takeMessage_eq_some htake
      exact hsame rfl (settles_finish P S ndebug e a m { s.effect with m_sub_socket := some ms }).unanswered
    · cases h
  | receiveError =>
    simp only [effectStep] at h
    split at h <;> cases h
    exact hsame rfl rfl
  | leave =>
    simp only [effectStep] at h
    split at h
    · cases h
      exact hsame rfl rfl
    · rw [Option.ite_none_left_eq_some] at h
      obtain ⟨-, h⟩ := h
      cases h
      exact hsame rfl rfl
    · cases h

end MfxProxy
