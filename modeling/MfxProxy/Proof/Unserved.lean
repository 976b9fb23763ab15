import MfxProxy.Proof.Delivery

/-!
# The host of this repository

The main loop of `MfxProxyHostBroker::broker_thread_main` takes every message and ends each
round with `TODO handle the message`, so the host never puts anything but its first message
on PAIR. `receive_message` has no timeout.

* `unserved`: no call of `Load`, `Unload` or `Describe` ends in anything but
  `kOfxStatFailed`, and one that waits for its reply holds the effect's mutex for ever,
  unless its receive throws.
-/

namespace MfxProxy

open Lib

variable {τ : Type} {P : Platform} {S : Suites} {ndebug : Bool} {H : HostProcess} {e : UInt32}

/-- Nothing has come for the effect, and no call has ended well. -/
structure EffectSession.Futile (x : EffectSession τ) : Prop where
  empty : ∀ ms, x.effect.m_sub_socket = some ms → ms = []
  ended : ∀ r ∈ x.ended, r.2 = .ok kOfxStatFailed
  leaving : ∀ t result, x.m_effect_lock = some (t, .leaving result) → result = .ok kOfxStatFailed

namespace EffectSession.Futile

variable {x y : EffectSession τ} {ev : EffectEvent τ}

theorem takeMessage (hx : x.Futile) : x.takeMessage = none := by
  unfold EffectSession.takeMessage
  split
  · rename_i m ms hsub
    cases hx.empty _ hsub
  · rfl

/-- A `zmq::error_t` makes the call fail. -/
theorem throws (hx : x.Futile) (t : τ) : (x.run t (Prog.throw .error_t)).Futile := by
  refine ⟨hx.empty, hx.ended, fun t' result h => ?_⟩
  cases h
  rfl

/-- Answers apart, the calls go on failing. -/
theorem step (hx : x.Futile) (hev : ev.isAnswer = false) (h : effectStep P S ndebug e x ev = some y) : y.Futile := by
  cases ev with
  | enter t a =>
    simp only [effectStep] at h
    split at h <;> cases h
    refine ⟨hx.empty, hx.ended, fun t' result h => ?_⟩
    cases a <;> cases h
  | connect =>
    simp only [effectStep] at h
    split at h <;> cases h
    refine ⟨fun ms hms => (Option.some.inj hms).symm, hx.ended, fun t' result h => ?_⟩
    cases h
  | request id =>
    simp only [effectStep] at h
    split at h <;> try cases h
    rename_i t a hlock
    rw [Option.ite_none_left_eq_some] at h
    obtain ⟨-, h⟩ := h
    obtain rfl := Option.some.inj h
    by_cases hpub : x.effect.m_pub_socket = true
    · simp only [EffectSession.sendRequest, EffectCode.send_message, Prog.run_get_bind, hpub, if_true,
        Prog.run_modify]
      refine ⟨hx.empty, hx.ended, fun t' result h => ?_⟩
      cases h
    · have hsend : x.sendRequest P e t a id =
          { x with generated := id :: x.generated }.run t (Prog.throw .error_t) := by
        simp [EffectSession.sendRequest, EffectCode.send_message, hpub]
      rw [hsend]
      have hgen : ({ x with generated := id :: x.generated } : EffectSession τ).Futile :=
        ⟨hx.empty, hx.ended, hx.leaving⟩
      exact hgen.throws t
  | answer T message id => cases hev
  | receive =>
    simp only [effectStep] at h
    split at h
    · rw [hx.takeMessage] at h
      cases h
    · cases h
  | receiveError =>
    simp only [effectStep] at h
    split at h <;> cases h
    exact hx.throws _
  | leave =>
    have hends : ∀ {t result}, x.m_effect_lock = some (t, .leaving result) →
        ({ x with m_effect_lock := none, ended := (t, result) :: x.ended } : EffectSession τ).Futile := by
      intro t result hlock
      refine ⟨hx.empty, List.forall_mem_cons.2 ⟨hx.leaving t result hlock, hx.ended⟩, fun t' result' h => ?_⟩
      cases h
    simp only [effectStep] at h
    split at h
    · rename_i t status hlock
      cases h
      exact hends hlock
    · rename_i t f hlock
      rw [Option.ite_none_left_eq_some] at h
      obtain ⟨-, h⟩ := h
      cases h
      exact hends hlock
    · cases h

/-- A call that waits for its reply goes on only by an exception. -/
theorem waits (hx : x.Futile) {t : τ} {a : EffectAction} {id : UInt32}
    (hlock : x.m_effect_lock = some (t, .receiving a id)) (hev : ev.isAnswer = false) (herror : ev ≠ .receiveError) :
    effectStep P S ndebug e x ev = none := by
  cases ev with
  | answer T message id => cases hev
  | receiveError => exact (herror rfl).elim
  | receive => simp only [effectStep, hlock, hx.takeMessage, Option.map_none]
  | _ => simp only [effectStep, hlock]

end EffectSession.Futile

namespace System

variable {s s' : System τ} {ev : SystemEvent τ}

/-- Nothing is published, and no call of any effect has ended well. -/
structure Silent (P : Platform) (ndebug : Bool) (H : HostProcess) (s : System τ) : Prop where
  linked : s.Linked P ndebug H
  pair : s.onPair = []
  futile : ∀ e, (s.effects e).Futile

theorem silent_init : Silent P ndebug H ({} : System τ) where
  linked := linked_init
  pair := rfl
  futile _ := ⟨nofun, nofun, nofun⟩

theorem silent_step (hserves : H.serves = false) (hs : s.Silent P ndebug H)
    (h : systemStep P S ndebug H s ev = some s') : s'.Silent P ndebug H := by
  have hlinked := linked_step hs.linked h
  cases moves_of hs.linked h with
  | @effect e ev x hdef hev hx =>
    refine ⟨hlinked, hs.pair, fun e' => ?_⟩
    show (Function.update s.effects e x e').Futile
    by_cases he : e' = e
    · subst he
      rw [Function.update_self]
      exact (hs.futile e').step hev hx
    · rw [Function.update_of_ne he]
      exact hs.futile e'
  | @arrive e m ms hms =>
    refine ⟨hlinked, hs.pair, fun e' => ?_⟩
    show (Function.update s.effects e _ e').Futile
    by_cases he : e' = e
    · subst he
      rw [Function.update_self]
      exact ⟨(hs.futile e').empty, (hs.futile e').ended, (hs.futile e').leaving⟩
    · rw [Function.update_of_ne he]
      exact hs.futile e'
  | readFirst hphase hrecv hread =>
    exact ⟨hlinked, (onPair_receiveFirst hphase hrecv _ .polling nofun).trans hs.pair, hs.futile⟩
  | failFirst hphase hrecv hread =>
    exact ⟨hlinked, (onPair_receiveFirst hphase hrecv _ (.ended _) nofun).trans hs.pair, hs.futile⟩
  | pluginWait ht => exact ⟨hlinked, (onPair_pluginWait ht).trans hs.pair, hs.futile⟩
  | publish ht =>
    -- the broker would have to have something to publish
    obtain ⟨-, hpair, -⟩ | ⟨hsocket, -⟩ := ht.socket
    · have hnone := hs.pair
      rw [onPair_looping ht.before.1, hpair] at hnone
      cases hnone
    · cases hsocket
  | pass ht => exact ⟨hlinked, (onPair_pass ht).trans hs.pair, hs.futile⟩
  | sendFirst hphase =>
    have hsent := sent_of hs.linked hphase
    exact ⟨hlinked, hsent.onPair.trans hs.pair, by rw [hsent.effects]; exact hs.futile⟩
  | hostWait ht => exact ⟨hlinked, hs.pair, hs.futile⟩
  | take ht => exact ⟨hlinked, hs.pair, hs.futile⟩
  | reply hserves' hfind htype =>
    rw [hserves] at hserves'
    cases hserves'
  | throws hrun => exact ⟨hlinked, hs.pair, hs.futile⟩

theorem silent_exec (hserves : H.serves = false) {evs : List (SystemEvent τ)} {u : System τ}
    (hu : exec (systemStep P S ndebug H) {} evs = some u) : u.Silent P ndebug H :=
  exec_inv (fun _ _ _ hs h => silent_step hserves hs h) silent_init hu

/-- The call that waits for its reply keeps the mutex. -/
theorem waiting_step (hs : s.Silent P ndebug H) {t : τ} {a : EffectAction} {id : UInt32}
    (hlock : (s.effects e).m_effect_lock = some (t, .receiving a id)) (hev : ev ≠ .effect e .receiveError)
    (h : systemStep P S ndebug H s ev = some s') : (s'.effects e).m_effect_lock = some (t, .receiving a id) := by
  cases moves_of hs.linked h with
  | @effect e' ev x hdef hev' hx =>
    show (Function.update s.effects e' x e).m_effect_lock = _
    by_cases he : e = e'
    · subst he
      have hnone : effectStep P S ndebug e (s.effects e) ev = none :=
        (hs.futile e).waits hlock hev' fun herror => hev (by rw [herror])
      rw [hx] at hnone
      cases hnone
    · rw [Function.update_of_ne he]
      exact hlock
  | @arrive e' m ms hms =>
    show (Function.update s.effects e' _ e).m_effect_lock = _
    by_cases he : e = e'
    · subst he
      rw [Function.update_self]
      exact hlock
    · rw [Function.update_of_ne he]
      exact hlock
  | publish ht =>
    rw [(publishes_of hs.linked ht e).effect]
    split
    · exact hlock
    · exact hlock
  | sendFirst hphase =>
    rw [(sent_of hs.linked hphase).effects]
    exact hlock
  | _ => exact hlock

/-- **Nothing is ever answered.** With the host of this repository, in every run of the two
processes, every call of `Load`, `Unload` or `Describe` that has ended has ended with
`kOfxStatFailed`; and one that waits for its reply still waits, with the mutex, after
anything that may follow but an exception from its receive. -/
theorem unserved (hserves : H.serves = false) (S : Suites) (e : UInt32) {evs : List (SystemEvent τ)} {u : System τ}
    (hu : exec (systemStep P S ndebug H) {} evs = some u) :
    (∀ r ∈ (u.effects e).ended, r.2 = .ok kOfxStatFailed) ∧
    ∀ t a id, (u.effects e).m_effect_lock = some (t, .receiving a id) →
      ∀ evs' u', (∀ ev ∈ evs', ev ≠ .effect e .receiveError) → exec (systemStep P S ndebug H) u evs' = some u' →
        (u'.effects e).m_effect_lock = some (t, .receiving a id) := by
  have hsilent := silent_exec hserves hu
  refine ⟨(hsilent.futile e).ended, fun t a id hlock evs' u' hevs hu' => ?_⟩
  have hcond := (allSteps_label (P := fun ev : SystemEvent τ => ev ≠ .effect e .receiveError) hu').2 hevs
  have hend := exec_inv_of (I := fun s : System τ => s.Silent P ndebug H ∧
    (s.effects e).m_effect_lock = some (t, .receiving a id)) (fun s ev s' hs hev h => ?_) ⟨hsilent, hlock⟩ hcond hu'
  · exact hend.2
  · exact ⟨silent_step hserves hs.1 h, waiting_step hs.1 hs.2 hev h⟩

/-- `Load` of effect 1 holds its mutex whatever comes after its request. -/
theorem unserved_load : ∃ u : System ℕ,
    exec (systemStep .reference .obliging false (twoEffectsHost false)) {} requestRun = some u ∧
    ∀ evs' u', (∀ ev ∈ evs', ev ≠ .effect 1 .receiveError) →
      exec (systemStep .reference .obliging false (twoEffectsHost false)) u evs' = some u' →
        (u'.effects 1).m_effect_lock = some (0, .receiving .Load 7) := by
  have hrun : (exec (systemStep .reference .obliging false (twoEffectsHost false)) {} requestRun).isSome = true := by
    decide +kernel
  have hu := (Option.some_get hrun).symm
  exact ⟨_, hu, (unserved rfl .obliging 1 hu).2 0 .Load 7 rfl⟩

end System

end MfxProxy
