import MfxProxy.Proof.Fits

/-!
# A launched call comes to its end

* `publisher_progress`, `caller_progress`: until `get_plugin_definition` has returned, the broker's
  thread or its own can go on, and each such step lowers `Handshake.rank`. What ends a wait that
  nothing else ends is its deadline.
* `startup_ends`: so a call that waits can always end, whatever has become of the host process.
-/

namespace MfxProxy

open Lib

/-! ## The handshake -/

/-- How many steps the publication may still take, once begun. -/
def PublisherPhase.rank : PublisherPhase → ℕ
  | .locked => 3
  | .swapped => 2
  | .notified => 1
  | .receiving | .published => 0

/-- How many steps the call still has to take. -/
def Handshake.callerRank (x : Handshake) : ℕ :=
  match x.caller with
  | .outside => 6
  | .locked => 5
  | .waiting =>
    if .caller ∈ x.monitor.waiting then
      if x.deadline = none then 4 else 3
    else 2
  | .leaving .. => 1
  | .returned .. => 0

def Handshake.rank (x : Handshake) : ℕ := 4 * x.callerRank + x.publisher.rank

variable {x : Handshake}

/-- The publication goes on, once begun. -/
theorem publisher_progress (hx : Guarded x) (howner : x.monitor.owner = some .broker) :
    ∃ ev, x.publisher ≠ .receiving ∧ ev.isPublisher = true ∧
      ∀ d, ∃ y, handshakeStep d x ev = some y ∧ y.rank < x.rank := by
  rcases hx.publisher.1 howner with hp | hp | hp
  · refine ⟨.swap, by simp [hp], rfl, fun d => ⟨_, if_pos hp, ?_⟩⟩
    simp [Handshake.rank, Handshake.callerRank, PublisherPhase.rank, hp]
  · refine ⟨.notify_all, by simp [hp], rfl, fun d => ⟨_, if_pos hp, ?_⟩⟩
    -- the notification may also take the call out of its wait
    have hcaller : Handshake.callerRank { x with monitor := x.monitor.notify_all, publisher := .notified } ≤
        x.callerRank := by
      unfold Handshake.callerRank
      cases x.caller <;> simp [Monitor.notify_all]
      split
      · split <;> omega
      · omega
    simp only [Handshake.rank, PublisherPhase.rank, hp]
    omega
  · refine ⟨.publisherUnlock, by simp [hp], rfl, fun d => ⟨{ x with
      monitor := { x.monitor with owner := none }
      publisher := .published }, ?_, ?_⟩⟩
    · simp [handshakeStep, hp, Monitor.unlock, howner]
    · simp [Handshake.rank, Handshake.callerRank, PublisherPhase.rank, hp]

/-- The call goes on, unless the broker's thread holds the mutex. -/
theorem caller_progress (hx : Guarded x) (hcaller : ∀ result timeout, x.caller ≠ .returned result timeout)
    (howner : x.monitor.owner ≠ some .broker) :
    ∃ ev, ev.isPublisher = false ∧ ∀ d, ∃ y, handshakeStep d x ev = some y ∧ y.rank < x.rank := by
  have hfree : (x.caller = .locked ∨ ∃ result timeout, x.caller = .leaving result timeout) ∨
      x.monitor.owner = none := by
    cases ho : x.monitor.owner with
    | none => exact Or.inr rfl
    | some th =>
      cases th with
      | broker => exact absurd ho howner
      | caller => exact Or.inl (hx.caller.1 ho)
  cases hc : x.caller with
  | outside =>
    have hnone : x.monitor.owner = none := by simpa [hc] using hfree
    have hawake : .caller ∉ x.monitor.waiting := fun hmem => by simpa [hc] using (hx.blocked _ hmem).2
    refine ⟨.callerLock, rfl, fun d => ⟨{ x with
      monitor := { x.monitor with owner := some .caller }
      caller := .locked
      publishedFirst := x.m_plugin_definition.isSome }, ?_, ?_⟩⟩
    · simp [handshakeStep, Monitor.lock, hc, hnone, hawake]
    · simp [Handshake.rank, Handshake.callerRank, hc]
  | locked =>
    have hmine : x.monitor.owner = some .caller := hx.caller.2 (Or.inl hc)
    refine ⟨.wait_for, rfl, fun d => ⟨{ x with
      monitor := { owner := none, waiting := insert .caller x.monitor.waiting }
      caller := .waiting }, ?_, ?_⟩⟩
    · simp [handshakeStep, Monitor.wait, hc, hmine]
    · simp only [Handshake.rank, Handshake.callerRank, hc, Finset.mem_insert_self, if_true]
      split <;> omega
  | waiting =>
    have hnone : x.monitor.owner = none := by simpa [hc] using hfree
    by_cases hblocked : .caller ∈ x.monitor.waiting
    · by_cases hdeadline : x.deadline = none
      · refine ⟨.deadline, rfl, fun d => ⟨_, if_pos ⟨hc, hdeadline⟩, ?_⟩⟩
        simp [Handshake.rank, Handshake.callerRank, hc, hblocked, hdeadline]
      · -- the deadline has passed, and the call awakes
        refine ⟨.wake, rfl, fun d => ⟨{ x with
          monitor := { x.monitor with waiting := x.monitor.waiting.erase .caller } }, ?_, ?_⟩⟩
        · simp [handshakeStep, Monitor.wake, hblocked]
        · simp [Handshake.rank, Handshake.callerRank, hc, hblocked, hdeadline]
    · refine ⟨.relock, rfl, fun d => ⟨{ x with
        monitor := { x.monitor with owner := some .caller }
        caller := .leaving x.m_plugin_definition x.deadline.isSome }, ?_, ?_⟩⟩
      · simp [handshakeStep, Monitor.lock, hc, hnone, hblocked]
      · simp [Handshake.rank, Handshake.callerRank, hc, hblocked]
  | leaving result timeout =>
    have hmine : x.monitor.owner = some .caller := hx.caller.2 (Or.inr ⟨_, _, hc⟩)
    refine ⟨.callerUnlock, rfl, fun d => ⟨{ x with
      monitor := { x.monitor with owner := none }
      caller := .returned result timeout }, ?_, ?_⟩⟩
    · simp [handshakeStep, Monitor.unlock, hc, hmine]
    · simp [Handshake.rank, Handshake.callerRank, hc]
  | returned result timeout => exact absurd hc (hcaller result timeout)

/-! ## The call -/

namespace Startup

variable {max : ℕ} {P : Platform} {B : Build} {H : HostEnv} {host : Option Addr} {bundle_dir : Option CStr}
  {env : SetHostEnv} {p : MfxProxyPlugin max} {s t u : Startup max} {ev : StartupEvent} {evs : List StartupEvent}

/-- Who holds the mutex, and what the broker's thread publishes. -/
structure Paired (s : Startup max) : Prop where
  guarded : Guarded s.handshake
  built : s.handshake.publisher ≠ .receiving → ∃ d, s.broker = .built d

theorem paired_start (p : MfxProxyPlugin max) : Paired { plugin := p } :=
  ⟨guarded_init, fun h => (h rfl).elim⟩

theorem paired_step (hs : Paired s) (h : startupStep P B H host bundle_dir env s ev = some t) : Paired t := by
  obtain ⟨hguarded, hbuilt⟩ := hs
  cases moves_of_step h with
  | received receiving waiting alive read => exact ⟨hguarded, fun _ => ⟨_, rfl⟩⟩
  | published built publisher alive step => exact ⟨guarded_step hguarded step, fun _ => ⟨_, built⟩⟩
  | waited waiting caller alive step =>
    obtain ⟨hpublisher, -, -⟩ := caller_outcome caller step
    exact ⟨guarded_step hguarded step, fun h => hbuilt (by rwa [← hpublisher])⟩
  | _ => exact ⟨hguarded, hbuilt⟩

/-- The events of the plugin process. -/
def OfPlugin : StartupEvent → Prop
  | .publish _ | .wait _ | .setupEffects => True
  | _ => False

/-- How many steps the plugin process still has to take. -/
def rank (s : Startup max) : ℕ :=
  match s.call with
  | .ended _ => 0
  | _ => s.handshake.rank + 1

/-- The call waits, or is over. -/
def Launched (s : Startup max) : Prop :=
  Paired s ∧ ((s.call = .waiting ∧ s.fault = none) ∨ ∃ r, s.call = .ended r)

theorem launched_progress (hs : Launched s) (hgoal : ¬ ∃ r, s.call = .ended r) :
    ∃ ev t, OfPlugin ev ∧ startupStep P B H host bundle_dir env s ev = some t ∧ Launched t ∧ t.rank < s.rank := by
  obtain ⟨hpaired, hcall⟩ := hs
  obtain ⟨hwaiting, halive⟩ := hcall.resolve_right hgoal
  have hrank : s.rank = s.handshake.rank + 1 := by simp [rank, hwaiting]
  by_cases hreturned : ∃ result timeout, s.handshake.caller = .returned result timeout
  · obtain ⟨result, timeout, hret⟩ := hreturned
    have hstep : startupStep P B H host bundle_dir env s .setupEffects = some (s.finish _ _) :=
      step_setupEffects hwaiting hret halive rfl
    refine ⟨.setupEffects, _, trivial, hstep, ⟨paired_step hpaired hstep, Or.inr ⟨_, rfl⟩⟩, ?_⟩
    rw [hrank]
    exact Nat.succ_pos _
  push Not at hreturned
  by_cases howner : s.handshake.monitor.owner = some .broker
  · obtain ⟨ev, hreceived, hev, hprogress⟩ := publisher_progress hpaired.guarded howner
    obtain ⟨d, hd⟩ := hpaired.built hreceived
    obtain ⟨y, hy, hlt⟩ := hprogress d
    have hstep : startupStep P B H host bundle_dir env s (.publish ev) = some { s with handshake := y } := by
      simp only [startupStep, hd, hev, halive, hy, and_self, if_true, Option.map_some]
    refine ⟨.publish ev, _, trivial, hstep, ⟨paired_step hpaired hstep, Or.inl ⟨hwaiting, halive⟩⟩, ?_⟩
    simp only [rank, hwaiting]
    omega
  · obtain ⟨ev, hev, hprogress⟩ := caller_progress hpaired.guarded hreturned howner
    obtain ⟨y, hy, hlt⟩ := hprogress ⟨0, []⟩
    have hstep : startupStep P B H host bundle_dir env s (.wait ev) = some { s with handshake := y } := by
      simp only [startupStep, hwaiting, hev, halive, hy, Bool.false_eq_true, not_false_eq_true, and_self, if_true,
        Option.map_some]
    refine ⟨.wait ev, _, trivial, hstep, ⟨paired_step hpaired hstep, Or.inl ⟨hwaiting, halive⟩⟩, ?_⟩
    simp only [rank, hwaiting]
    omega

/-- **A launched call can always end**: from every state of every run in which it waits, the plugin
process is alive, and whatever has become of the host process, steps of the plugin process alone
take the call to its end. -/
theorem startup_ends (hu : exec (startupStep P B H host bundle_dir env) { plugin := p } evs = some u)
    (hwaiting : u.call = .waiting) (halive : u.fault = none) :
    ∃ more t r, (∀ ev ∈ more, OfPlugin ev) ∧ exec (startupStep P B H host bundle_dir env) u more = some t ∧
      t.call = .ended r := by
  have hpaired : Paired u := exec_inv (fun _ _ _ => paired_step) (paired_start p) hu
  obtain ⟨more, t, hmore, ht, -, r, hr⟩ := exec_of_rank (I := Launched) (G := fun s => ∃ r, s.call = .ended r)
    (A := OfPlugin) rank (fun _ => launched_progress) ⟨hpaired, Or.inl ⟨hwaiting, halive⟩⟩
  exact ⟨more, t, r, hmore, ht, hr⟩

/-- The host process has been launched and has not begun to run. -/
theorem startup_ends_alone : ∃ u : Startup 4, ∃ more t r,
    exec (startupStep .reference .reference (hostLoading twoEffects) none (some (c_str "/effects")) (.good none))
      { plugin := .create .reference } [.launch] = some u ∧
    (∀ ev ∈ more, OfPlugin ev) ∧
    exec (startupStep .reference .reference (hostLoading twoEffects) none (some (c_str "/effects")) (.good none))
      u more = some t ∧ t.call = .ended r := by
  have hfresh : Fresh (gOfxPlugins .reference 4) (.create .reference) := fresh_create
  obtain ⟨q, argv, hlaunch, -⟩ := launch_of_launches none hfresh (launches_good none (c_str "/effects"))
  obtain ⟨more, t, r, hmore, ht, hr⟩ := startup_ends (exec_cons.2 ⟨_, step_launch hlaunch, exec_nil⟩) rfl rfl
  exact ⟨_, more, t, r, exec_cons.2 ⟨_, step_launch hlaunch, exec_nil⟩, hmore, ht, hr⟩

end Startup

end MfxProxy
