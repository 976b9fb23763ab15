import MfxProxy.Lib.Exec
import MfxProxy.Spec.Definition
import MfxProxy.Spec.Reference

/-!
# When the wait for the definition goes wrong

Because the wait has no predicate, a call that starts after the publication sleeps
until its deadline, and a spurious wake-up before the publication makes the call
return null.

* `WaitsWell`: what a call should do.
* `handshake_exclusion`, `notified_call_goes_on`: the mutex, and the notification of a call that
  waits when the broker publishes.
* `asleep_exec`: a call that comes too late is not woken.
* `waitsWell_iff`: the call does what it should exactly on the runs where neither happens.
-/

namespace MfxProxy

open Lib

variable {d : BrokerPluginBundleDefinition} {s t u : Handshake} {ev : HandshakeEvent} {evs : List HandshakeEvent}

/-! ## What a call should do -/

/-- What `get_plugin_definition` returns, and whether it reports a timeout, once its wait
is over. -/
def CallerPhase.outcome : CallerPhase → Option (Option BrokerPluginBundleDefinition × Bool)
  | .leaving result timeout | .returned result timeout => some (result, timeout)
  | _ => none

/-- **What a call should do**: it returns null only when the deadline has passed with
nothing published before; and when the definition was published before the call took the
lock, the call returns it, does not wait for the deadline and reports no timeout. -/
structure WaitsWell (d : BrokerPluginBundleDefinition) (s : Handshake) : Prop where
  null : ∀ timeout, s.caller.outcome = some (none, timeout) → s.deadline = some false
  first : s.publishedFirst = true → s.deadline = none ∧
    ∀ result timeout, s.caller.outcome = some (result, timeout) → result = some d ∧ timeout = false
  /-- Once the publication is over, a call in progress needs no deadline and no spurious wake-up
  to return what is published. -/
  returns : s.publisher = .published → s.caller = .locked ∨ s.caller = .waiting →
    ∃ evs u, (∀ ev ∈ evs, ev ≠ .deadline ∧ ev ≠ .wake) ∧ exec (handshakeStep d) s evs = some u ∧
      u.caller = .returned (some d) s.deadline.isSome

/-- An event that is not too early or too late after these: the call takes the lock before the
definition is swapped in, and takes it again, as after a spurious wake-up it may at any time,
only when the definition has been swapped in or the deadline has passed. -/
def Timely (past : List HandshakeEvent) : HandshakeEvent → Prop
  | .callerLock => .swap ∉ past
  | .relock => .swap ∈ past ∨ .deadline ∈ past
  | _ => True

instance (past : List HandshakeEvent) : ∀ ev, Decidable (Timely past ev)
  | .callerLock => inferInstanceAs (Decidable (_ ∉ _))
  | .relock => inferInstanceAs (Decidable (_ ∨ _))
  | .publisherLock | .swap | .notify_all | .publisherUnlock | .wait_for | .wake | .deadline | .callerUnlock =>
    .isTrue trivial

/-- The schedules on which the call does what it should. -/
def WellScheduled (evs : List HandshakeEvent) : Prop := ∀ i, (h : i < evs.length) → Timely (evs.take i) evs[i]

instance (evs : List HandshakeEvent) : Decidable (WellScheduled evs) :=
  inferInstanceAs (Decidable (∀ i, (_ : i < evs.length) → Timely (evs.take i) evs[i]))

theorem wellScheduled_concat {past : List HandshakeEvent} :
    WellScheduled (past ++ [ev]) ↔ WellScheduled past ∧ Timely past ev := by
  constructor
  · intro h
    refine ⟨fun i hi => ?_, ?_⟩
    · have hi' := h i (by rw [List.length_append]; omega)
      rwa [List.take_append_of_le_length (by omega), List.getElem_append_left hi] at hi'
    · have hlast := h past.length (by simp)
      rwa [List.take_left, List.getElem_concat_length] at hlast
      rfl
  · rintro ⟨hpast, hev⟩ i hi
    rw [List.length_append, List.length_singleton] at hi
    rcases Nat.lt_or_eq_of_le (Nat.le_of_lt_succ hi) with hlt | rfl
    · rw [List.take_append_of_le_length (by omega), List.getElem_append_left hlt]
      exact hpast i hlt
    · rw [List.take_left, List.getElem_concat_length]
      · exact hev
      · rfl

/-! ## What a step can do -/

/-- A step that leaves the call where it is, or takes it into its wait or out of the
mutex; it may publish. -/
structure Quiet (d : BrokerPluginBundleDefinition) (s t : Handshake) : Prop where
  publishedFirst : t.publishedFirst = s.publishedFirst
  deadline : t.deadline = s.deadline
  outcome : t.caller.outcome = s.caller.outcome
  definition : t.m_plugin_definition = s.m_plugin_definition ∨ t.m_plugin_definition = some d
  caller : t.caller = s.caller ∨ (t.caller ≠ .outside ∧ t.caller ≠ .locked)

theorem handshakeStep_cases (h : handshakeStep d s ev = some t) :
    (ev = .callerLock ∧ s.caller = .outside ∧ ∃ m, t =
      { s with monitor := m, caller := .locked, publishedFirst := s.m_plugin_definition.isSome }) ∨
    (ev = .deadline ∧ s.caller = .waiting ∧ s.deadline = none ∧
      t = { s with deadline := some s.m_plugin_definition.isSome }) ∨
    (ev = .relock ∧ s.caller = .waiting ∧ ∃ m, t =
      { s with monitor := m, caller := .leaving s.m_plugin_definition s.deadline.isSome }) ∨
    (ev ≠ .deadline ∧ ev ≠ .relock ∧ Quiet d s t) := by
  cases ev with
  | publisherLock | publisherUnlock =>
    simp only [handshakeStep, Option.ite_none_right_eq_some, Option.map_eq_some_iff] at h
    obtain ⟨-, m, -, rfl⟩ := h
    exact Or.inr (Or.inr (Or.inr ⟨by simp, by simp, rfl, rfl, rfl, Or.inl rfl, Or.inl rfl⟩))
  | swap =>
    simp only [handshakeStep, Option.ite_none_right_eq_some, Option.some.injEq] at h
    obtain ⟨-, rfl⟩ := h
    exact Or.inr (Or.inr (Or.inr ⟨by simp, by simp, rfl, rfl, rfl, Or.inr rfl, Or.inl rfl⟩))
  | notify_all =>
    simp only [handshakeStep, Option.ite_none_right_eq_some, Option.some.injEq] at h
    obtain ⟨-, rfl⟩ := h
    exact Or.inr (Or.inr (Or.inr ⟨by simp, by simp, rfl, rfl, rfl, Or.inl rfl, Or.inl rfl⟩))
  | callerLock =>
    simp only [handshakeStep, Option.ite_none_right_eq_some, Option.map_eq_some_iff] at h
    obtain ⟨hc, m, -, rfl⟩ := h
    exact Or.inl ⟨rfl, hc, m, rfl⟩
  | wait_for =>
    simp only [handshakeStep, Option.ite_none_right_eq_some, Option.map_eq_some_iff] at h
    obtain ⟨hc, m, -, rfl⟩ := h
    refine Or.inr (Or.inr (Or.inr ⟨by simp, by simp, rfl, rfl, ?_, Or.inl rfl, Or.inr ⟨by simp, by simp⟩⟩))
    rw [hc]
    rfl
  | wake =>
    simp only [handshakeStep, Option.map_eq_some_iff] at h
    obtain ⟨m, -, rfl⟩ := h
    exact Or.inr (Or.inr (Or.inr ⟨by simp, by simp, rfl, rfl, rfl, Or.inl rfl, Or.inl rfl⟩))
  | deadline =>
    simp only [handshakeStep, Option.ite_none_right_eq_some, Option.some.injEq] at h
    obtain ⟨⟨hc, hd⟩, rfl⟩ := h
    exact Or.inr (Or.inl ⟨rfl, hc, hd, rfl⟩)
  | relock =>
    simp only [handshakeStep, Option.ite_none_right_eq_some, Option.map_eq_some_iff] at h
    obtain ⟨hc, m, -, rfl⟩ := h
    exact Or.inr (Or.inr (Or.inl ⟨rfl, hc, m, rfl⟩))
  | callerUnlock =>
    simp only [handshakeStep] at h
    split at h
    · rename_i result timeout hc
      obtain ⟨m, -, rfl⟩ := Option.map_eq_some_iff.1 h
      refine Or.inr (Or.inr (Or.inr ⟨by simp, by simp, rfl, rfl, ?_, Or.inl rfl, Or.inr ⟨by simp, by simp⟩⟩))
      rw [hc]
      rfl
    · cases h

/-! ## The invariant -/

structure HandshakeInv (d : BrokerPluginBundleDefinition) (s : Handshake) : Prop where
  definition : s.m_plugin_definition = none ∨ s.m_plugin_definition = some d
  /-- Before its wait the call has seen no deadline. -/
  early : s.caller = .outside ∨ s.caller = .locked → s.deadline = none
  outside : s.caller = .outside → s.publishedFirst = false
  first : s.publishedFirst = true → s.m_plugin_definition = some d
  passed : s.deadline = some true → s.m_plugin_definition = some d

theorem handshakeInv_init : HandshakeInv d {} := ⟨Or.inl rfl, fun _ => rfl, fun _ => rfl, by simp, by simp⟩

/-- What is seen to be published is `d`. -/
theorem HandshakeInv.seen (h : HandshakeInv d s) (hs : s.m_plugin_definition.isSome = true) :
    s.m_plugin_definition = some d := by
  rcases h.definition with hnone | hd
  · rw [hnone] at hs; cases hs
  · exact hd

theorem handshakeInv_step (h : HandshakeInv d s) (hstep : handshakeStep d s ev = some t) : HandshakeInv d t := by
  rcases handshakeStep_cases hstep with ⟨-, hc, m, rfl⟩ | ⟨-, hc, -, rfl⟩ | ⟨-, hc, m, rfl⟩ | ⟨-, -, hq⟩
  · exact ⟨h.definition, fun _ => h.early (Or.inl hc), by simp, h.seen, h.passed⟩
  · refine ⟨h.definition, fun hcases => ?_, h.outside, h.first, fun hp => h.seen (Option.some.inj hp)⟩
    -- the deadline passes in the wait only
    rcases hcases with hcases | hcases <;> rw [show s.caller = _ from hcases] at hc <;> cases hc
  · exact ⟨h.definition, by simp, by simp, h.first, h.passed⟩
  · -- a definition that is there stays, whether or not this step publishes
    have hstays : s.m_plugin_definition = some d → t.m_plugin_definition = some d := by
      intro hd
      rcases hq.definition with he | he
      · rw [he, hd]
      · exact he
    refine ⟨?_, fun hc => ?_, fun hc => ?_, fun hf => ?_, fun hp => ?_⟩
    · rcases hq.definition with he | he
      · rw [he]; exact h.definition
      · exact Or.inr he
    · rw [hq.deadline]
      rcases hq.caller with he | ⟨hno, hnl⟩
      · exact h.early (he ▸ hc)
      · rcases hc with hc | hc
        · exact absurd hc hno
        · exact absurd hc hnl
    · rw [hq.publishedFirst]
      rcases hq.caller with he | ⟨hno, -⟩
      · exact h.outside (he ▸ hc)
      · exact absurd hc hno
    · exact hstays (h.first (hq.publishedFirst ▸ hf))
    · exact hstays (h.passed (hq.deadline ▸ hp))

/-! ## The mutex and the notification -/

/-- Who holds the mutex, and who can be blocked. -/
structure Guarded (s : Handshake) : Prop where
  publisher : s.monitor.owner = some .broker ↔
    s.publisher = .locked ∨ s.publisher = .swapped ∨ s.publisher = .notified
  caller : s.monitor.owner = some .caller ↔
    s.caller = .locked ∨ ∃ result timeout, s.caller = .leaving result timeout
  /-- Only the caller waits, and only in its wait. -/
  blocked : ∀ th ∈ s.monitor.waiting, th = .caller ∧ s.caller = .waiting
  definition : s.publisher = .swapped ∨ s.publisher = .notified ∨ s.publisher = .published ↔
    s.m_plugin_definition.isSome = true
  lockedFirst : s.caller = .locked → s.publisher = .published → s.publishedFirst = true
  /-- A wait that the notification found has been ended by it. -/
  woken : s.publisher = .notified ∨ s.publisher = .published → .caller ∈ s.monitor.waiting →
    s.publishedFirst = true

theorem guarded_init : Guarded {} := ⟨by simp, by simp, by simp, by simp, by simp, by simp⟩

theorem guarded_step (h : Guarded s) (hstep : handshakeStep d s ev = some t) : Guarded t := by
  obtain ⟨hp, hc, hb, hd, hl, hw⟩ := h
  cases ev with
  | callerUnlock =>
    simp only [handshakeStep] at hstep
    split at hstep
    · simp only [Option.map_eq_some_iff, Monitor.unlock_eq_some] at hstep
      obtain ⟨m, ⟨howner, rfl⟩, rfl⟩ := hstep
      constructor <;> grind
    · cases hstep
  | _ =>
    simp only [handshakeStep, Option.ite_none_right_eq_some, Option.map_eq_some_iff, Option.some.injEq,
      Monitor.lock_eq_some, Monitor.unlock_eq_some, Monitor.wait_eq_some, Monitor.wake_eq_some] at hstep
    constructor <;> grind [Monitor.notify_all]

/-- **The publication and the end of a call exclude each other.** -/
theorem handshake_exclusion (h : exec (handshakeStep d) {} evs = some u)
    (hpub : u.publisher = .locked ∨ u.publisher = .swapped ∨ u.publisher = .notified) :
    u.caller ≠ .locked ∧ ∀ result timeout, u.caller ≠ .leaving result timeout := by
  have hg := exec_inv (fun s a t => guarded_step) guarded_init h
  have howner := hg.publisher.2 hpub
  have hnot : ¬ (u.caller = .locked ∨ ∃ result timeout, u.caller = .leaving result timeout) := by
    rw [← hg.caller, howner]
    simp
  push Not at hnot
  exact hnot

/-- **The notification is not lost** on a call that waits when the broker publishes: once
the broker is done, the call can take the mutex back. -/
theorem notified_call_goes_on (h : exec (handshakeStep d) {} evs = some u) (hpub : u.publisher = .published)
    (hwait : u.caller = .waiting) (hfirst : u.publishedFirst = false) :
    ∃ t, handshakeStep d u .relock = some t ∧ t.caller = .leaving (some d) u.deadline.isSome := by
  have hg := exec_inv (fun s a t => guarded_step) guarded_init h
  have hinv := exec_inv (fun s a t => handshakeInv_step) handshakeInv_init h
  have hblocked : .caller ∉ u.monitor.waiting := by
    intro hmem
    rw [hg.woken (Or.inr hpub) hmem] at hfirst
    cases hfirst
  -- the broker is done and the caller waits, so nobody holds the mutex
  have hfree : u.monitor.owner = none := by
    cases howner : u.monitor.owner with
    | none => rfl
    | some th =>
      cases th with
      | broker => exact absurd (hg.publisher.1 howner) (by simp [hpub])
      | caller => exact absurd (hg.caller.1 howner) (by simp [hwait])
  have hd := hinv.seen (hg.definition.1 (Or.inr (Or.inr hpub)))
  have hrelock : handshakeStep d u .relock = some
      { u with
        monitor := { u.monitor with owner := some .caller }
        caller := .leaving (some d) u.deadline.isSome } := by
    rw [handshakeStep, if_pos hwait, Monitor.lock_eq_some.2 ⟨⟨hfree, hblocked⟩, rfl⟩, hd]
    rfl
  exact ⟨_, hrelock, rfl⟩

/-! ## A call that comes too late -/

/-- The call sleeps, or is about to, and the publication is over. -/
def Asleep (s : Handshake) : Prop :=
  s.publisher = .published ∧ (s.caller = .locked ∨ s.caller = .waiting ∧ .caller ∈ s.monitor.waiting)

theorem asleep_step (h : Asleep s) (hev : ev ≠ .wake) (hstep : handshakeStep d s ev = some t) : Asleep t := by
  obtain ⟨hp, hcall⟩ := h
  cases ev with
  | wake => exact (hev rfl).elim
  | publisherLock | swap | notify_all | publisherUnlock => simp [handshakeStep, hp] at hstep
  | callerLock | callerUnlock =>
    rcases hcall with hc | ⟨hc, -⟩
    · simp [handshakeStep, hc] at hstep
    · simp [handshakeStep, hc] at hstep
  | wait_for =>
    simp only [handshakeStep, Option.ite_none_right_eq_some, Option.map_eq_some_iff, Monitor.wait_eq_some] at hstep
    obtain ⟨-, m, ⟨-, rfl⟩, rfl⟩ := hstep
    exact ⟨hp, Or.inr ⟨rfl, Finset.mem_insert_self _ _⟩⟩
  | deadline =>
    simp only [handshakeStep, Option.ite_none_right_eq_some, Option.some.injEq] at hstep
    obtain ⟨-, rfl⟩ := hstep
    exact ⟨hp, hcall⟩
  | relock =>
    simp only [handshakeStep, Option.ite_none_right_eq_some, Option.map_eq_some_iff, Monitor.lock_eq_some] at hstep
    obtain ⟨hc, m, ⟨⟨-, hawake⟩, rfl⟩, rfl⟩ := hstep
    -- a blocked thread does not get the mutex
    rcases hcall with hc' | ⟨-, hblocked⟩
    · rw [hc] at hc'
      cases hc'
    · exact absurd hblocked hawake

/-- **Nobody wakes a call that comes too late.** -/
theorem asleep_exec (h : Asleep s) (hevs : ∀ ev ∈ evs, ev ≠ .wake) (hu : exec (handshakeStep d) s evs = some u) :
    Asleep u := by
  have hall := (allSteps_label (P := fun ev => ev ≠ .wake) hu).2 hevs
  exact exec_inv_of (C := fun _ ev => ev ≠ .wake) (fun _ _ _ hs hev => asleep_step hs hev) h hall hu

/-! ## What a state shows of the past -/

/-- The definition is there once it has been swapped in, the deadline has passed once it has. -/
structure Recorded (past : List HandshakeEvent) (s : Handshake) : Prop where
  swap : s.m_plugin_definition.isSome = true ↔ .swap ∈ past
  deadline : s.deadline.isSome = true ↔ .deadline ∈ past

theorem recorded_step {past : List HandshakeEvent} (h : Recorded past s) (hstep : handshakeStep d s ev = some t) :
    Recorded (past ++ [ev]) t := by
  obtain ⟨hswap, hdeadline⟩ := h
  cases ev with
  | swap | notify_all | deadline =>
    simp only [handshakeStep, Option.ite_none_right_eq_some, Option.some.injEq] at hstep
    obtain ⟨-, rfl⟩ := hstep
    exact ⟨by simp [hswap], by simp [hdeadline]⟩
  | callerUnlock =>
    simp only [handshakeStep] at hstep
    split at hstep
    · obtain ⟨m, -, rfl⟩ := Option.map_eq_some_iff.1 hstep
      exact ⟨by simp [hswap], by simp [hdeadline]⟩
    · cases hstep
  | publisherLock | publisherUnlock | callerLock | wait_for | relock =>
    simp only [handshakeStep, Option.ite_none_right_eq_some, Option.map_eq_some_iff] at hstep
    obtain ⟨-, m, -, rfl⟩ := hstep
    exact ⟨by simp [hswap], by simp [hdeadline]⟩
  | wake =>
    simp only [handshakeStep, Option.map_eq_some_iff] at hstep
    obtain ⟨m, -, rfl⟩ := hstep
    exact ⟨by simp [hswap], by simp [hdeadline]⟩

theorem recorded_exec (hu : exec (handshakeStep d) {} evs = some u) : Recorded evs u :=
  exec_past (fun _ _ _ _ => recorded_step) ⟨by simp, by simp⟩ hu

/-! ## Whole runs -/

/-- The call has begun before the publication, and what it has seen is not too early. -/
structure OnTime (s : Handshake) : Prop where
  early : s.publishedFirst = false
  null : ∀ timeout, s.caller.outcome = some (none, timeout) → s.deadline = some false

theorem onTime_step {past : List HandshakeEvent} (hinv : HandshakeInv d s) (hpast : Recorded past s) (h : OnTime s)
    (hev : Timely past ev) (hstep : handshakeStep d s ev = some t) : OnTime t := by
  rcases handshakeStep_cases hstep with ⟨rfl, hc, m, rfl⟩ | ⟨rfl, hc, hdl, rfl⟩ | ⟨rfl, hc, m, rfl⟩ | ⟨hnd, hnr, hq⟩
  · have hnone : ¬ s.m_plugin_definition.isSome = true := fun hsome => hev (hpast.swap.1 hsome)
    refine ⟨?_, ?_⟩
    · simpa using hnone
    · rintro timeout ⟨⟩
  · refine ⟨h.early, fun timeout hout => ?_⟩
    rw [show CallerPhase.outcome _ = none by rw [hc]; rfl] at hout
    cases hout
  · refine ⟨h.early, fun timeout hout => ?_⟩
    -- nothing is published yet, so the deadline has passed, and nothing was published then
    have hnone : s.m_plugin_definition = none := congrArg (fun o => (o.getD (none, false)).1) hout
    have hnot : .swap ∉ past := by
      rw [← hpast.swap, hnone]
      simp
    obtain ⟨p, hp⟩ := Option.isSome_iff_exists.1 (hpast.deadline.2 (hev.resolve_left hnot))
    show s.deadline = some false
    cases p with
    | false => exact hp
    | true =>
      rw [hinv.passed hp] at hnone
      cases hnone
  · refine ⟨by rw [hq.publishedFirst, h.early], ?_⟩
    rw [hq.outcome, hq.deadline]
    exact h.null

theorem onTime_exec (hevs : WellScheduled evs) (hu : exec (handshakeStep d) {} evs = some u) : OnTime u := by
  have hall : HandshakeInv d u ∧ Recorded evs u ∧ (WellScheduled evs → OnTime u) := by
    refine exec_past (I := fun past s => HandshakeInv d s ∧ Recorded past s ∧ (WellScheduled past → OnTime s))
      (fun past s ev t hs hstep => ?_) ⟨handshakeInv_init, ⟨by simp, by simp⟩, fun _ => ⟨rfl, nofun⟩⟩ hu
    obtain ⟨hinv, hpast, hontime⟩ := hs
    refine ⟨handshakeInv_step hinv hstep, recorded_step hpast hstep, fun hwell => ?_⟩
    obtain ⟨hwell, hev⟩ := wellScheduled_concat.1 hwell
    exact onTime_step hinv hpast (hontime hwell) hev hstep
  exact hall.2.2 hevs

/-- A call that is on time does what it should. -/
theorem OnTime.waitsWell (h : OnTime u) (hu : exec (handshakeStep d) {} evs = some u) : WaitsWell d u := by
  refine ⟨h.null, fun hfirst => ?_, fun hpub hcall => ?_⟩
  · rw [h.early] at hfirst
    cases hfirst
  have hg := exec_inv (fun s a t => guarded_step) guarded_init hu
  rcases hcall with hlocked | hwaiting
  · have hfirst := hg.lockedFirst hlocked hpub
    rw [h.early] at hfirst
    cases hfirst
  -- it has been notified, so it takes the mutex back and leaves
  obtain ⟨t, ht, hleaving⟩ := notified_call_goes_on hu hpub hwaiting h.early
  have howner := (guarded_step hg ht).caller.2 (Or.inr ⟨_, _, hleaving⟩)
  have hunlock : handshakeStep d t .callerUnlock = some { t with
      monitor := { t.monitor with owner := none }
      caller := .returned (some d) u.deadline.isSome } := by
    simp only [handshakeStep, hleaving]
    rw [Monitor.unlock_eq_some.2 ⟨howner, rfl⟩]
    rfl
  exact ⟨[.relock, .callerUnlock], _, by simp, exec_cons.2 ⟨t, ht, exec_cons.2 ⟨_, hunlock, exec_nil⟩⟩, rfl⟩

/-- **A step that is not timely goes wrong**: the call sleeps with nobody left to wake it, or
returns null before its deadline. -/
theorem timely_of_waitsWell {past : List HandshakeEvent} (hs : exec (handshakeStep d) {} past = some s)
    (hstep : handshakeStep d s ev = some t) (ht : WaitsWell d t) : Timely past ev := by
  have hpast := recorded_exec hs
  have hu : exec (handshakeStep d) {} (past ++ [ev]) = some t := exec_concat.2 ⟨s, hs, hstep⟩
  cases ev with
  | callerLock =>
    intro hswap
    have hg := exec_inv (fun s a t => guarded_step) guarded_init hu
    simp only [handshakeStep, Option.ite_none_right_eq_some, Option.map_eq_some_iff] at hstep
    obtain ⟨-, m, -, ht'⟩ := hstep
    have hlocked : t.caller = .locked := by rw [← ht']
    have hsome : t.m_plugin_definition.isSome = true := by
      rw [← ht']
      exact hpast.swap.2 hswap
    -- the call has the mutex, so the broker is done with it
    have hpub : t.publisher = .published := by
      have hout := fun h => (handshake_exclusion hu h).1 hlocked
      rcases hg.definition.2 hsome with h | h | h
      · exact (hout (Or.inr (Or.inl h))).elim
      · exact (hout (Or.inr (Or.inr h))).elim
      · exact h
    obtain ⟨evs, u, hevs, hrun, hreturned⟩ := ht.returns hpub (Or.inl hlocked)
    have hasleep : Asleep u := asleep_exec ⟨hpub, Or.inl hlocked⟩ (fun ev hev => (hevs ev hev).2) hrun
    simp [Asleep, hreturned] at hasleep
  | relock =>
    show .swap ∈ past ∨ .deadline ∈ past
    by_contra hbad
    rw [not_or, ← hpast.swap, ← hpast.deadline, Bool.not_eq_true, Bool.not_eq_true, Option.isSome_eq_false_iff,
      Option.isSome_eq_false_iff, Option.isNone_iff_eq_none, Option.isNone_iff_eq_none] at hbad
    simp only [handshakeStep, Option.ite_none_right_eq_some, Option.map_eq_some_iff] at hstep
    obtain ⟨-, m, -, rfl⟩ := hstep
    have hnull := ht.null s.deadline.isSome (by rw [hbad.1]; rfl)
    rw [show s.deadline = some false from hnull] at hbad
    cases hbad.2
  | _ => trivial

/-- **The call does what it should in every state of the well-scheduled runs, and of no others.** -/
theorem waitsWell_iff (h : exec (handshakeStep d) {} evs = some u) :
    (∀ past s, past <+: evs → exec (handshakeStep d) {} past = some s → WaitsWell d s) ↔ WellScheduled evs := by
  constructor
  · intro hwell i hi
    have hevs : evs.take i ++ evs[i] :: evs.drop (i + 1) = evs := by
      rw [← List.drop_eq_getElem_cons hi, List.take_append_drop]
    rw [← hevs] at h
    obtain ⟨s, hs, hrest⟩ := exec_append.1 h
    obtain ⟨t, hstep, -⟩ := exec_cons.1 hrest
    have hprefix : evs.take i ++ [evs[i]] <+: evs := by
      rw [List.take_concat_get' evs i hi]
      exact List.take_prefix _ _
    exact timely_of_waitsWell hs hstep (hwell _ t hprefix (exec_concat.2 ⟨s, hs, hstep⟩))
  · rintro hevs past s ⟨rest, rfl⟩ hs
    have hpast : WellScheduled past := by
      intro i hi
      have hi' := hevs i (by rw [List.length_append]; omega)
      rwa [List.take_append_of_le_length (by omega), List.getElem_append_left hi] at hi'
    exact (onTime_exec hpast hs).waitsWell hs

/-- The call is waiting when the broker publishes. -/
def promptHandshake : List HandshakeEvent :=
  [.callerLock, .wait_for, .publisherLock, .swap, .notify_all, .publisherUnlock, .relock, .callerUnlock]

theorem waitsWell_prompt : ∃ u, exec (handshakeStep (catalogue ["blur"])) {} promptHandshake = some u ∧
    u.caller = .returned (some (catalogue ["blur"])) false ∧
    ∀ past s, past <+: promptHandshake → exec (handshakeStep (catalogue ["blur"])) {} past = some s →
      WaitsWell (catalogue ["blur"]) s := by
  have hrun : ∃ u, exec (handshakeStep (catalogue ["blur"])) {} promptHandshake = some u ∧
      u.caller = .returned (some (catalogue ["blur"])) false := ⟨_, rfl, rfl⟩
  obtain ⟨u, hu, hcaller⟩ := hrun
  exact ⟨u, hu, hcaller, (waitsWell_iff hu).2 (by decide)⟩

/-- The publication is over before the call begins. -/
def lateCall : List HandshakeEvent :=
  [.publisherLock, .swap, .notify_all, .publisherUnlock, .callerLock, .wait_for, .deadline, .wake, .relock]

/-- The wait ends spuriously before the publication. -/
def spuriousCall : List HandshakeEvent := [.callerLock, .wait_for, .wake, .relock]

/-- A call after the publication waits for its deadline and reports a timeout; a call
whose wait ends spuriously returns null. -/
theorem call_goes_wrong :
    (∃ u, exec (handshakeStep (catalogue ["blur"])) {} lateCall = some u ∧
      u.caller = .leaving (some (catalogue ["blur"])) true ∧ ¬ WaitsWell (catalogue ["blur"]) u) ∧
    ∃ u, exec (handshakeStep (catalogue ["blur"])) {} spuriousCall = some u ∧
      u.caller = .leaving none false ∧ ¬ WaitsWell (catalogue ["blur"]) u := by
  refine ⟨⟨_, rfl, rfl, fun h => ?_⟩, ⟨_, rfl, rfl, fun h => ?_⟩⟩
  · cases (h.first rfl).1
  · cases h.null false rfl

end MfxProxy
