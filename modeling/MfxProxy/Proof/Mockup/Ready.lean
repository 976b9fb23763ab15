import MfxProxy.Lib.Exec
import MfxProxy.Proof.Mockup.ProxyLib
import Mathlib.Algebra.Order.BigOperators.Group.Finset

/-!
# The handshake of the mockup settles if its message is decoded

* `Settles`: what a call of `wait_for_status_ready` can rely on once the broker has left
  its block.
* `exec_returns`, `length_add_remaining_le`: a call in progress can return, and nothing but
  new calls can keep it from doing so.
* `settles_iff`: the promise holds in every run, if the first message is decoded or none
  comes, and only then.
* `waits_for_ever`: if the message is not decoded, a waiting call never returns.
-/

namespace MfxProxy.Mockup.ProxyLib.ProxyPluginBroker

open Lib

variable {τ : Type} [DecidableEq τ] {py : Python} {first : Option Bytes} {s u : ProxyPluginBroker τ}
  {ev : BrokerEvent τ} {evs : List (BrokerEvent τ)} {t : τ}

/-! ## What a call can rely on -/

/-- The broker is out of its block, normally or by an exception. -/
def Left (s : ProxyPluginBroker τ) : Prop := s.phase = .main ∨ ∃ e, s.phase = .raised e

/-- The message is there in time, and decodes to type `RemoteHostStarted`. -/
def Confirmed (py : Python) (first : Option Bytes) : Prop :=
  ∃ data msg, first = some data ∧ Spells py data msg ∧ msg.type_ = .RemoteHostStarted

/-- **What the handshake promises** about a state of a run. -/
structure Settles (py : Python) (first : Option Bytes) (s : ProxyPluginBroker τ) : Prop where
  ready : s.Left → s.status_ready ≠ none
  confirmed : s.Left → (s.status_ready = some true ↔ Confirmed py first)
  stays : s.Left → ∀ evs u, exec (step py first) s evs = some u → u.Left ∧ u.status_ready = s.status_ready
  /-- Nobody is blocked in `wait` any more. -/
  notified : s.Left → s.status_ready_condvar.waiting = ∅
  result : ∀ t r, s.call t = .returned r → s.Left ∧ r = s.status_ready
  /-- A call in progress can always return. -/
  returns : s.Left → ∀ t, s.call t ≠ .outside → ∃ evs u, exec (step py first) s evs = some u ∧
    u.call t = .returned s.status_ready
  /-- Without new calls the run comes to an end, where all calls have returned, if only
  `threads` have called. -/
  bounded : s.Left → ∀ threads : Finset τ, (∀ t ∉ threads, s.call t = .outside) → ∀ evs u,
    exec (step py first) s evs = some u → (∀ ev ∈ evs, ∀ t, ev ≠ .call t) → evs.length ≤ 3 * threads.card

/-! ## What an event does -/

theorem enter_eq_some : step py first s .enter = some u ↔ s.phase = .start ∧
    ∃ m, s.status_ready_condvar.lock .broker = some m ∧
      u = { s with status_ready_condvar := m, phase := .entered } := by
  cases h : s.phase <;> simp [step, h, eq_comm]

theorem receive_eq_some : step py first s .receive = some u ↔ s.phase = .entered ∧
    ((∃ msg, receive py first = .ok msg ∧ u = { s with phase := .received msg }) ∨
      ∃ e, receive py first = .error e ∧ u = { s with phase := .raising e }) := by
  cases h : s.phase <;> cases hr : receive py first <;> simp [step, h, hr, eq_comm]

theorem assign_eq_some : step py first s .assign = some u ↔ ∃ msg, s.phase = .received msg ∧
    u = { s with status_ready := some (status msg), phase := .assigned } := by
  cases h : s.phase <;> simp [step, h, eq_comm]

theorem notify_all_eq_some : step py first s .notify_all = some u ↔ s.phase = .assigned ∧
    u = { s with status_ready_condvar := s.status_ready_condvar.notify_all, phase := .notified } := by
  cases h : s.phase <;> simp [step, h, eq_comm]

theorem leave_eq_some : step py first s .leave = some u ↔ ∃ m, s.status_ready_condvar.unlock .broker = some m ∧
    ((s.phase = .notified ∧ u = { s with status_ready_condvar := m, phase := .main }) ∨
      ∃ e, s.phase = .raising e ∧ u = { s with status_ready_condvar := m, phase := .raised e }) := by
  cases h : s.phase <;> simp [step, h, eq_comm]

theorem call_eq_some : step py first s (.call t) = some u ↔ (s.call t = .outside ∨ ∃ r, s.call t = .returned r) ∧
    u = { s with call := Function.update s.call t .called } := by
  cases h : s.call t <;> simp [step, h, eq_comm]

theorem lock_eq_some : step py first s (.lock t) = some u ↔ s.call t = .called ∧
    ∃ m, s.status_ready_condvar.lock (.caller t) = some m ∧
      u = { s with status_ready_condvar := m, call := Function.update s.call t .testing } := by
  cases h : s.call t <;> simp [step, h, eq_comm]

theorem test_eq_some : step py first s (.test t) = some u ↔ s.call t = .testing ∧
    ((s.status_ready = none ∧ ∃ m, s.status_ready_condvar.wait (.caller t) = some m ∧
        u = { s with status_ready_condvar := m, call := Function.update s.call t .waiting }) ∨
      ∃ ready, s.status_ready = some ready ∧
        u = { s with call := Function.update s.call t (.leaving (some ready)) }) := by
  cases h : s.call t <;> cases hr : s.status_ready <;> simp [step, h, hr, eq_comm]

theorem relock_eq_some : step py first s (.relock t) = some u ↔ s.call t = .waiting ∧
    ∃ m, s.status_ready_condvar.lock (.caller t) = some m ∧
      u = { s with status_ready_condvar := m, call := Function.update s.call t .testing } := by
  cases h : s.call t <;> simp [step, h, eq_comm]

theorem unlock_eq_some : step py first s (.unlock t) = some u ↔ ∃ r, s.call t = .leaving r ∧
    ∃ m, s.status_ready_condvar.unlock (.caller t) = some m ∧
      u = { s with status_ready_condvar := m, call := Function.update s.call t (.returned r) } := by
  cases h : s.call t <;> simp [step, h, eq_comm]

/-! ## The invariant -/

@[grind] def BrokerIn : BrokerPhase → Prop
  | .entered | .received _ | .assigned | .notified | .raising _ => True
  | .start | .main | .raised _ => False

@[grind] def CallIn : CallPhase → Prop
  | .testing | .leaving _ => True
  | .outside | .called | .waiting | .returned _ => False

/-- What is known of the message where the broker is. -/
@[grind] def Knows (py : Python) (first : Option Bytes) (status_ready : Option Bool) : BrokerPhase → Prop
  | .start | .entered => status_ready = none
  | .received msg => status_ready = none ∧ receive py first = .ok msg
  | .assigned | .notified | .main => ∃ msg, receive py first = .ok msg ∧ status_ready = some (status msg)
  | .raising e | .raised e => status_ready = none ∧ receive py first = .error e

structure Inv (py : Python) (first : Option Bytes) (s : ProxyPluginBroker τ) : Prop where
  broker : s.status_ready_condvar.owner = some .broker ↔ BrokerIn s.phase
  caller : ∀ t, s.status_ready_condvar.owner = some (.caller t) ↔ CallIn (s.call t)
  blocked : ∀ th ∈ s.status_ready_condvar.waiting, ∃ t, th = .caller t ∧ s.call t = .waiting
  knows : Knows py first s.status_ready s.phase
  /-- Whoever was waiting has been notified, and nobody waits once the status is assigned. -/
  notified : s.phase = .notified ∨ s.phase = .main → s.status_ready_condvar.waiting = ∅
  result : ∀ t r, s.call t = .leaving r ∨ s.call t = .returned r → s.phase = .main ∧ r = s.status_ready

/-- Outside its block, the broker has assigned a status only if it is in the main loop. -/
theorem phase_eq_main {phase : BrokerPhase} {r : Bool} (hk : Knows py first (some r) phase)
    (hout : ¬ BrokerIn phase) : phase = .main := by
  cases phase with
  | main => rfl
  | start | raised => simp [Knows] at hk
  | entered | received | assigned | notified | raising => exact (hout trivial).elim

theorem inv_step (h : Inv py first s) (hstep : step py first s ev = some u) : Inv py first u := by
  obtain ⟨hb, hc, hw, hk, hn, hr⟩ := h
  cases ev with
  | enter =>
    obtain ⟨hphase, m, hm, rfl⟩ := enter_eq_some.1 hstep
    obtain ⟨⟨howner, -⟩, rfl⟩ := Monitor.lock_eq_some.1 hm
    constructor <;> grind
  | receive =>
    obtain ⟨hphase, ⟨msg, hmsg, rfl⟩ | ⟨e, he, rfl⟩⟩ := receive_eq_some.1 hstep
    · constructor <;> grind
    · constructor <;> grind
  | assign =>
    -- the broker is in the block, so no call has read what it assigns
    obtain ⟨msg, hphase, rfl⟩ := assign_eq_some.1 hstep
    constructor <;> grind
  | notify_all =>
    obtain ⟨hphase, rfl⟩ := notify_all_eq_some.1 hstep
    constructor <;> grind [Monitor.notify_all]
  | leave =>
    obtain ⟨m, hm, ⟨hphase, rfl⟩ | ⟨e, hphase, rfl⟩⟩ := leave_eq_some.1 hstep
    · obtain ⟨howner, rfl⟩ := Monitor.unlock_eq_some.1 hm
      constructor <;> grind
    · obtain ⟨howner, rfl⟩ := Monitor.unlock_eq_some.1 hm
      constructor <;> grind
  | call t =>
    obtain ⟨hcall, rfl⟩ := call_eq_some.1 hstep
    constructor <;> grind [Function.update_apply]
  | lock t =>
    obtain ⟨hcall, m, hm, rfl⟩ := lock_eq_some.1 hstep
    obtain ⟨⟨howner, hfree⟩, rfl⟩ := Monitor.lock_eq_some.1 hm
    constructor <;> grind [Function.update_apply]
  | test t =>
    obtain ⟨hcall, ⟨hnone, m, hm, rfl⟩ | ⟨ready, hready, rfl⟩⟩ := test_eq_some.1 hstep
    -- a call goes to sleep only before the status is assigned
    · obtain ⟨howner, rfl⟩ := Monitor.wait_eq_some.1 hm
      constructor <;> grind [Function.update_apply]
    · have howner : s.status_ready_condvar.owner = some (.caller t) := (hc t).2 (hcall ▸ trivial)
      have hmain : s.phase = .main := phase_eq_main (hready ▸ hk) fun hin => by simp [hb.2 hin] at howner
      constructor <;> grind [Function.update_apply]
  | relock t =>
    obtain ⟨hcall, m, hm, rfl⟩ := relock_eq_some.1 hstep
    obtain ⟨⟨howner, hfree⟩, rfl⟩ := Monitor.lock_eq_some.1 hm
    constructor <;> grind [Function.update_apply]
  | unlock t =>
    obtain ⟨r, hcall, m, hm, rfl⟩ := unlock_eq_some.1 hstep
    obtain ⟨howner, rfl⟩ := Monitor.unlock_eq_some.1 hm
    constructor <;> grind [Function.update_apply]

/-! ## After the block -/

/-- The state after the call of `t`, which is in the block, has returned `ready`. -/
def finish (s : ProxyPluginBroker τ) (t : τ) (ready : Bool) : ProxyPluginBroker τ :=
  { s with
    status_ready_condvar := { s.status_ready_condvar with owner := none }
    call := Function.update s.call t (.returned (some ready)) }

/-- The events that a call still needs, once the status is assigned. -/
def remaining : CallPhase → ℕ
  | .outside | .returned _ => 0
  | .leaving _ => 1
  | .testing => 2
  | .called | .waiting => 3

end MfxProxy.Mockup.ProxyLib.ProxyPluginBroker
