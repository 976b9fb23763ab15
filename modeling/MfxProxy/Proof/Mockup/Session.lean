import MfxProxy.Proof.Mockup.Ready
import MfxProxy.Spec.Mockup.Session

/-!
# What becomes of the two scripts

The first message of the host's broker is not decoded, so the status is never true. Either the
poll ends before it comes, and `main` of `proxy_plugin.py` can give up, or it comes, and `main`
waits for ever.

* `sessionInv_step`: no request is sent, and the handshake is that of `ProxyPluginBroker`, with what
  the poll has ended with.
* `inTime_step`, `gives_up_progress`: the two ways it goes.
* `session_outcome`: what becomes of every run.
-/

namespace MfxProxy.Mockup.ProxyLib

open Lib

variable {py : Python}

/-! ## The handshake -/

namespace ProxyPluginBroker

variable {τ : Type} [DecidableEq τ] {first first' : Option Bytes} {s u : ProxyPluginBroker τ} {ev : BrokerEvent τ}

/-- The broker has not looked at a message yet. -/
def Early (s : ProxyPluginBroker τ) : Prop := s.phase = .start ∨ s.phase = .entered

/-- Only the end of the poll depends on what arrives. -/
theorem step_of_inner (hev : ev.inner = true) : step py first s ev = step py first' s ev := by
  cases ev with
  | receive => cases hev
  | _ => rfl

theorem early_step (hev : ev.inner = true) (h : step py first s ev = some u) : u.Early ↔ s.Early := by
  unfold Early
  cases ev with
  | enter =>
    obtain ⟨hphase, m, -, rfl⟩ := enter_eq_some.1 h
    simp [hphase]
  | receive => cases hev
  | assign =>
    obtain ⟨msg, hphase, rfl⟩ := assign_eq_some.1 h
    simp [hphase]
  | notify_all =>
    obtain ⟨hphase, rfl⟩ := notify_all_eq_some.1 h
    simp [hphase]
  | leave =>
    obtain ⟨m, -, ⟨hphase, rfl⟩ | ⟨e, hphase, rfl⟩⟩ := leave_eq_some.1 h
    · simp [hphase]
    · simp [hphase]
  | call t => cases hev
  | lock t =>
    obtain ⟨-, m, -, rfl⟩ := lock_eq_some.1 h
    exact Iff.rfl
  | test t =>
    obtain ⟨-, ⟨-, m, -, rfl⟩ | ⟨ready, -, rfl⟩⟩ := test_eq_some.1 h
    · exact Iff.rfl
    · exact Iff.rfl
  | relock t =>
    obtain ⟨-, m, -, rfl⟩ := relock_eq_some.1 h
    exact Iff.rfl
  | unlock t =>
    obtain ⟨r, -, m, -, rfl⟩ := unlock_eq_some.1 h
    exact Iff.rfl

/-- How far the broker is from its main loop. -/
def phaseRank : BrokerPhase → ℕ
  | .start => 5
  | .entered => 4
  | .received _ => 3
  | .assigned => 2
  | .notified => 1
  | .main | .raising _ | .raised _ => 0

/-- What a call can still do: before the status is assigned it only goes to sleep. -/
def callRank : BrokerPhase → CallPhase → ℕ
  | .main, c => remaining c
  | _, .testing => 1
  | _, _ => 0

def rank (b : ProxyPluginBroker Unit) : ℕ := 8 * phaseRank b.phase + callRank b.phase (b.call ())

end ProxyPluginBroker

open ProxyPluginBroker (Early)

variable {s t u : Session} {ev : SessionEvent} {evs : List SessionEvent}

/-- Some message has these bytes. -/
def Encoded (py : Python) (data : Bytes) : Prop := ∃ m : Message, m.to_bytes py = .ok data

theorem receive_encoded {data : Bytes} (h : Encoded py data) :
    ProxyPluginBroker.receive py (some data) = .error .ValueError := by
  obtain ⟨m, hm⟩ := h
  rw [ProxyPluginBroker.receive, from_bytes_to_bytes hm]
  rfl

/-- The handshake has gone as it goes with what the poll has ended with, and what is there or was
taken for it are messages. -/
structure Shakes (py : Python) (s : Session) : Prop where
  inv : ∀ first, (∀ f, s.polled = some f → f = first) → ProxyPluginBroker.Inv py first s.handshake
  polled : s.polled = none ↔ s.handshake.Early
  sent : ∀ data ∈ s.plugin_broker.pair_socket, Encoded py data
  received : ∀ data, s.polled = some (some data) → Encoded py data

/-- Where `main` is. -/
structure Waits (s : Session) : Prop where
  outside : s.handshake.call () = .outside ↔ s.main ≠ .waiting ∧ s.main ≠ .gave_up
  gave_up : s.main = .gave_up → s.polled = some none

/-- Whoever has waited has not got what it waited for. -/
theorem Shakes.returned (hs : Shakes py s) {r : Option Bool} (h : s.handshake.call () = .returned r) :
    s.polled = some none ∧ r = some false := by
  cases hpolled : s.polled with
  | none =>
    obtain ⟨hmain, -⟩ := (hs.inv none (by simp [hpolled])).result () r (Or.inr h)
    have hearly := hs.polled.1 hpolled
    simp [Early, hmain] at hearly
  | some first =>
    have hinv := hs.inv first (by simp [hpolled])
    obtain ⟨hmain, hr⟩ := hinv.result () r (Or.inr h)
    have hknows := hinv.knows
    rw [hmain] at hknows
    obtain ⟨msg, hmsg, hready⟩ := hknows
    cases first with
    | some data =>
      rw [receive_encoded (hs.received data hpolled)] at hmsg
      cases hmsg
    | none =>
      obtain rfl := Except.ok.inj hmsg
      exact ⟨rfl, hr.trans hready⟩

/-- What a step of a broker or of the host's scripts leaves alone. -/
theorem Shakes.frame (hs : Shakes py s) (hhandshake : t.handshake = s.handshake) (hpolled : t.polled = s.polled)
    (hsent : ∀ data ∈ t.plugin_broker.pair_socket, data ∈ s.plugin_broker.pair_socket ∨ Encoded py data) :
    Shakes py t where
  inv first hfirst := by
    rw [hhandshake]
    exact hs.inv first fun f hf => hfirst f (hpolled.trans hf)
  polled := by rw [hhandshake, hpolled, hs.polled]
  sent data hdata := (hsent data hdata).elim (hs.sent data) id
  received data hdata := hs.received data (hpolled ▸ hdata)

/-- Any other event of the handshake. -/
theorem Shakes.inner (hs : Shakes py s) {ev : BrokerEvent Unit} {b : ProxyPluginBroker Unit} (hev : ev.inner = true)
    (hb : s.handshake.step py none ev = some b) : Shakes py { s with handshake := b } where
  inv first hfirst := by
    rw [ProxyPluginBroker.step_of_inner hev] at hb
    exact ProxyPluginBroker.inv_step (hs.inv first hfirst) hb
  polled := hs.polled.trans (ProxyPluginBroker.early_step hev hb).symm
  sent := hs.sent
  received := hs.received

/-- A broker with empty queues has nothing to do. -/
theorem idle_step (ev : Mockup.BrokerEvent) : ({} : ProxyBroker).step ev = none := by
  cases ev with
  | select rlist =>
    apply if_neg
    rintro ⟨-, hne, -, hready⟩
    obtain ⟨sock, rest, rfl⟩ := List.exists_cons_of_ne_nil hne
    apply (hready sock List.mem_cons_self).2
    cases sock <;> rfl
  | recv => rfl
  | forward => rfl

/-- The message of the host came in time, or can only come in time. -/
theorem inTime_iff : s.InTime ↔
    (s.polled = none ∧ s.plugin_broker.pair_socket ≠ []) ∨ ∃ data, s.polled = some (some data) := by
  unfold Session.InTime
  cases s.polled with
  | none => simp
  | some first => cases first <;> simp

/-- A message that is there in time stays the first one. -/
theorem InTime.frame (hs : s.InTime) (hpolled : t.polled = s.polled)
    (hpair : s.polled = none → s.plugin_broker.pair_socket <+: t.plugin_broker.pair_socket) : t.InTime := by
  rw [inTime_iff] at hs ⊢
  rw [hpolled]
  rcases hs with ⟨hnone, hne⟩ | hdata
  · refine Or.inl ⟨hnone, fun hnil => hne ?_⟩
    have hprefix := hpair hnone
    rw [hnil] at hprefix
    exact List.prefix_nil.1 hprefix
  · exact Or.inr hdata

/-- How far `main` is from giving up. -/
def PluginMain.rank : PluginMain → ℕ
  | .thread_start => 4
  | .Popen => 3
  | .wait => 2
  | .waiting => 1
  | .gave_up | .sending | .receiving | .described _ => 0

def Session.rank (s : Session) : ℕ := 8 * s.main.rank + s.handshake.rank

end MfxProxy.Mockup.ProxyLib
