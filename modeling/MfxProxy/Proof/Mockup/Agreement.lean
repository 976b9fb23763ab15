import MfxProxy.Proof.Mockup.Reference
import MfxProxy.Proof.Mockup.Stages

/-!
# Requests and replies of the mockup agree

* `Agreement`: what agrees in a state.
* `describe_agreement`: it does in every state of every run.
* `describe_disagrees`: not so for an instance id that is negative.
-/

namespace MfxProxy.Mockup

open Lib

/-! ## Agreement -/

/-- The messages at a broker's sockets, and the one that it has received. -/
def ProxyBroker.inFlight (b : ProxyBroker) : List Bytes :=
  (match b.phase with
    | .forward _ data _ => [data]
    | _ => []) ++ b.sub_socket ++ b.pair_socket

/-- The requests and replies that were sent and not decoded yet. -/
def Network.inFlight (s : Network) : List Bytes :=
  s.plugin_broker.inFlight ++ s.host_broker.inFlight ++ s.host.sub_socket ++ s.plugin_sub

section agreement

variable {τ : Type} [DecidableEq τ]

/-- **Requests and replies agree**, in one state. Calls, requests and replies are numbered
in the order in which they were sent and ended. -/
structure Agreement (py : Python) (instance_id : ℤ) (s : System τ) : Prop where
  one_in_flight : s.network.inFlight.length ≤ 1
  /-- Call `k` has sent request `k` and decoded reply `k`, which was sent for that request
  and whose parameters end with the call's own; the status it returns is OK. -/
  own_reply : ∀ (k : ℕ) (t : τ) (parameters : String) (result : CallEnd),
    s.ended[k]? = some (t, parameters, result) → s.requests[k]? = some (t, parameters) ∧
      ∃ reply status l, s.replies[k]? = some (describeStart instance_id parameters, reply) ∧
        result = .received reply status ∧ result.result = .ok (.str "kOfxStatusOk") ∧
        reply.type_ = .ActionDescribeEnd ∧
        reply.data.getitem "parameters" = .ok (.list (l ++ [.str parameters]))
  /-- Reply `k` answers request `k`. -/
  one_reply : ∀ (k : ℕ) (request reply : Message), s.replies[k]? = some (request, reply) →
    ∃ t parameters, s.requests[k]? = some (t, parameters) ∧ request = describeStart instance_id parameters
  /-- Every request can get its reply, and its call can end. -/
  answered : ∃ evs u, exec (step py instance_id) s evs = some u ∧ s.requests <+: u.requests ∧
    u.replies.length = u.requests.length ∧ u.ended.length = u.requests.length
  expected : s.unexpected = []
  plugin_broker : ∀ e, s.network.plugin_broker.phase ≠ .raised e
  host_broker : ∀ e, s.network.host_broker.phase ≠ .raised e
  host : ∀ e, s.network.host.phase ≠ .raised e

variable {py : Python} {instance_id : ℤ} {done : List (τ × String)} {t : τ} {parameters : String} {stage : Stage}
  {s : System τ}

theorem inFlight_carrying {sock : Socket} (hsock : sock ∈ ProxyBroker.rlist_) (data : Bytes) (hop : Hop) :
    (ProxyBroker.carrying sock data hop).inFlight = [data] := by
  revert hsock
  cases sock <;> cases hop <;>
    simp [ProxyBroker.rlist_, ProxyBroker.inFlight, ProxyBroker.carrying, ProxyBroker.holding]

theorem carrying_not_raised {sock : Socket} {data : Bytes} {hop : Hop} (e : PyError) :
    (ProxyBroker.carrying sock data hop).phase ≠ .raised e := by
  cases hop <;> exact nofun

/-- In every stage at most one message is in flight, and no process has stopped. -/
structure Network.Sound (s : Network) : Prop where
  one_in_flight : s.inFlight.length ≤ 1
  plugin_broker : ∀ e, s.plugin_broker.phase ≠ .raised e
  host_broker : ∀ e, s.host_broker.phase ≠ .raised e
  host : ∀ e, s.host.phase ≠ .raised e

theorem sound_plugin_broker {sock : Socket} (hsock : sock ∈ ProxyBroker.rlist_) (data : Bytes) (hop : Hop) :
    Network.Sound { plugin_broker := .carrying sock data hop } where
  one_in_flight := by
    rw [Network.inFlight, inFlight_carrying hsock]
    rfl
  plugin_broker := carrying_not_raised
  host_broker := nofun
  host := nofun

theorem sound_host_broker {sock : Socket} (hsock : sock ∈ ProxyBroker.rlist_) (data : Bytes) (hop : Hop) :
    Network.Sound { host_broker := .carrying sock data hop } where
  one_in_flight := by
    rw [Network.inFlight, inFlight_carrying hsock]
    rfl
  plugin_broker := nofun
  host_broker := carrying_not_raised
  host := nofun

theorem sound_stage (py : Python) (instance_id : ℤ) (parameters : String) (stage : Stage) :
    (stage.network py instance_id parameters).Sound := by
  cases stage with
  | sending => exact ⟨Nat.zero_le _, nofun, nofun, nofun⟩
  | leaving => exact ⟨Nat.zero_le _, nofun, nofun, nofun⟩
  | answered => exact ⟨Nat.le_refl _, nofun, nofun, nofun⟩
  | host hop =>
    cases hop with
    | waiting => exact ⟨Nat.le_refl _, nofun, nofun, nofun⟩
    | selected => exact ⟨Nat.le_refl _, nofun, nofun, nofun⟩
    | held => exact ⟨Nat.zero_le _, nofun, nofun, nofun⟩
  | broker leg hop =>
    cases leg with
    | requestPlugin => exact sound_plugin_broker (by decide) _ hop
    | requestHost => exact sound_host_broker (by decide) _ hop
    | replyHost => exact sound_host_broker (by decide) _ hop
    | replyPlugin => exact sound_plugin_broker (by decide) _ hop

theorem prefix_getElem? {α : Type} {l m : List α} (h : l <+: m) {k : ℕ} {a : α} (hk : l[k]? = some a) :
    m[k]? = some a := by
  obtain ⟨r, rfl⟩ := h
  rw [List.getElem?_append_left (List.getElem?_eq_some_iff.1 hk).1]
  exact hk

/-- What follows from the histories: the calls that are over are among those that were
answered, and these among those that were sent. -/
theorem agreement_of {sent answered decoded : List (τ × String)} (hrequests : s.requests = sent)
    (hreplies : s.replies = repliesTo instance_id answered) (hended : s.ended = endsOf instance_id decoded)
    (hanswered : answered <+: sent) (hdecoded : decoded <+: answered) (hsound : s.network.Sound)
    (hunexpected : s.unexpected = [])
    (hrest : ∃ evs u, exec (step py instance_id) s evs = some u ∧ s.requests <+: u.requests ∧
      u.replies.length = u.requests.length ∧ u.ended.length = u.requests.length) :
    Agreement py instance_id s where
  one_in_flight := hsound.one_in_flight
  own_reply := by
    intro k t parameters result hk
    rw [hended, endsOf, List.getElem?_map, Option.map_eq_some_iff] at hk
    obtain ⟨c, hc, heq⟩ := hk
    cases heq
    -- call `k` is over, so it was answered, and so it was sent
    have hreply := prefix_getElem? hdecoded hc
    refine ⟨?_, describeEnd instance_id (.str c.2), .str "kOfxStatusOk", [.str "a", .str "b"], ?_, rfl, rfl, rfl, rfl⟩
    · rw [hrequests]
      exact prefix_getElem? hanswered hreply
    · rw [hreplies, repliesTo, List.getElem?_map, hreply]
      rfl
  one_reply := by
    intro k request reply hk
    rw [hreplies, repliesTo, List.getElem?_map, Option.map_eq_some_iff] at hk
    obtain ⟨c, hc, heq⟩ := hk
    cases heq
    refine ⟨c.1, c.2, ?_, rfl⟩
    rw [hrequests]
    exact prefix_getElem? hanswered hc
  answered := hrest
  expected := hunexpected
  plugin_broker := hsound.plugin_broker
  host_broker := hsound.host_broker
  host := hsound.host

omit [DecidableEq τ] in
theorem Idle.lengths (h : Idle instance_id done s) :
    s.replies.length = s.requests.length ∧ s.ended.length = s.requests.length := by
  rw [h.replies, h.ended, h.requests, repliesTo, endsOf, List.length_map, List.length_map]
  exact ⟨rfl, rfl⟩

theorem Idle.agreement (h : Idle instance_id done s) : Agreement py instance_id s := by
  refine agreement_of h.requests h.replies h.ended (List.prefix_refl _) (List.prefix_refl _) ?_ h.unexpected ?_
  · rw [h.network]
    exact ⟨Nat.zero_le _, nofun, nofun, nofun⟩
  · exact ⟨[], s, rfl, List.prefix_refl _, h.lengths⟩

omit [DecidableEq τ] in
theorem upTo_mono {c : τ × String} {near far : Bool} (h : far = true → near = true) :
    upTo done c far <+: upTo done c near := by
  unfold upTo
  cases far with
  | true =>
    have hnear := h rfl
    subst hnear
    exact List.prefix_refl _
  | false =>
    cases near with
    | true => exact List.prefix_append _ _
    | false => exact List.prefix_refl _

theorem Busy.agreement (hstart : ∀ p, Carries py (describeStart instance_id p))
    (hend : ∀ p, Carries py (describeEnd instance_id (.str p))) (h : Busy py instance_id done t parameters stage s) :
    Agreement py instance_id s := by
  have hreplied : stage.replied = true → stage.requested = true := by
    cases stage <;> simp [Stage.requested, Stage.replied]
  have hdecoded : stage.decoded = true → stage.replied = true := by
    cases stage <;> simp [Stage.decoded, Stage.replied]
  refine agreement_of h.requests h.replies h.ended (upTo_mono hreplied) (upTo_mono hdecoded) ?_ h.unexpected ?_
  · rw [h.network]
    exact sound_stage py instance_id parameters stage
  -- the rest of the current call is the run that answers every request
  · obtain ⟨evs, u, -, hu, hidle⟩ := busy_completes hstart hend h
    refine ⟨evs, u, hu, ?_, hidle.lengths⟩
    rw [hidle.requests, h.requests]
    exact (upTo_mono fun _ => rfl : _ <+: upTo done (t, parameters) true)

/-- The states that the system can be in. -/
def Between (py : Python) (instance_id : ℤ) (s : System τ) : Prop :=
  ∃ done, Idle instance_id done s ∨ ∃ t parameters stage, Busy py instance_id done t parameters stage s

theorem between_step (hstart : ∀ p, Carries py (describeStart instance_id p))
    (hend : ∀ p, Carries py (describeEnd instance_id (.str p))) {s' : System τ} {ev : Event τ}
    (h : Between py instance_id s) (hs : step py instance_id s ev = some s') : Between py instance_id s' := by
  obtain ⟨done, hidle | ⟨t, p, stage, hbusy⟩⟩ := h
  · rcases idle_step hidle hs with ⟨t, p, -, hidle'⟩ | ⟨t, p, -, hbusy⟩
    · exact ⟨done, Or.inl hidle'⟩
    · exact ⟨done, Or.inr ⟨t, p, _, hbusy⟩⟩
  · rcases busy_step hstart hend hbusy hs with ⟨t', p', -, hbusy'⟩ | ⟨-, stage', -, hbusy'⟩ | ⟨-, -, hidle⟩
    · exact ⟨done, Or.inr ⟨t, p, stage, hbusy'⟩⟩
    · exact ⟨done, Or.inr ⟨t, p, stage', hbusy'⟩⟩
    · exact ⟨_, Or.inl hidle⟩

theorem carries_of_wire {m : Message} (hid : py.Renders m.instance_id) (hdata : py.RoundTrips m.data) :
    Carries py m := by
  obtain ⟨b, hb, hdecoded, hdelivered⟩ := message_wire hid hdata
  have hwire : wire py m = b := by rw [wire, hb]
  exact ⟨by rw [hwire]; exact hb, by rw [hwire]; exact hdecoded, by rw [hwire]; exact hdelivered⟩

/-- **Every request of the mockup gets its own reply.** For an instance id that is not
negative, with the subscriptions to its prefix in place, requests and replies agree in
every state that calls from any threads can bring the system to. -/
theorem describe_agreement (hnonneg : 0 ≤ instance_id) {p : Bytes}
    (hsub : Message.get_instance_prefix py instance_id = .ok p)
    (hstart : ∀ p, py.RoundTrips (describeStart instance_id p).data)
    (hend : ∀ p, py.RoundTrips (describeEnd instance_id (.str p)).data) {evs : List (Event τ)} {s : System τ}
    (hs : exec (step py instance_id) {} evs = some s) : Agreement py instance_id s := by
  have hid : py.Renders instance_id := ⟨hnonneg, converts_of_prefix hsub⟩
  have hcstart : ∀ p, Carries py (describeStart instance_id p) := fun p => carries_of_wire hid (hstart p)
  have hcend : ∀ p, Carries py (describeEnd instance_id (.str p)) := fun p => carries_of_wire hid (hend p)
  have hinit : Between py instance_id ({} : System τ) :=
    ⟨[], Or.inl ⟨rfl, fun _ => trivial, rfl, rfl, rfl, rfl, rfl⟩⟩
  obtain ⟨done, hidle | ⟨t, p, stage, hbusy⟩⟩ := exec_inv (fun _ _ _ => between_step hcstart hcend) hinit hs
  · exact hidle.agreement
  · exact hbusy.agreement hcstart hcend

end agreement

/-! ## Two runs -/

/-- One thread calls and gets its reply, while another one waits for the mutex. -/
def describeRun : List (Event ℕ) :=
  [.call 0 "describe params", .acquire 0, .call 1 "describe params 1", .send 0,
    .plugin_broker (.select [.sub_socket]), .plugin_broker .recv, .plugin_broker .forward,
    .host_broker (.select [.pair_socket]), .host_broker .recv, .host_broker .forward,
    .host_select, .host_recv, .host_send,
    .host_broker (.select [.sub_socket]), .host_broker .recv, .host_broker .forward,
    .plugin_broker (.select [.pair_socket]), .plugin_broker .recv, .plugin_broker .forward,
    .recv 0, .release 0, .acquire 1]

theorem describe_agreement_run : ∃ s : System ℕ, exec (step .reference 0) {} describeRun = some s ∧
    s.ended.length = 1 ∧ Agreement .reference 0 s := by
  have hrun : (exec (step .reference 0) ({} : System ℕ) describeRun).map (·.ended.length) = some 1 := by decide +kernel
  obtain ⟨s, hs, hlen⟩ := Option.map_eq_some_iff.1 hrun
  exact ⟨s, hs, hlen, describe_agreement (by decide) (p := [48, 48, 48, 48, 48, 48, 48, 48]) (by rfl)
    (Reference.roundTrips_describeStart 0) (Reference.roundTrips_describeEnd 0) hs⟩

/-- The host side has died, and has sent these replies. -/
structure Dead (replies : List (Message × Message)) (s : System ℕ) : Prop where
  phase : s.network.host.phase = .raised .ValueError
  replies : s.replies = replies

theorem sendPlugin_host (py : Python) (instance_id : ℤ) (n : Network) (sent : Option Forwarded) :
    (n.sendPlugin py instance_id sent).host = n.host := by
  unfold Network.sendPlugin
  split
  · rfl
  · rfl
  · split <;> rfl

theorem sendHost_phase (py : Python) (instance_id : ℤ) (n : Network) (sent : Option Forwarded) :
    (n.sendHost py instance_id sent).host.phase = n.host.phase := by
  unfold Network.sendHost
  split
  · rfl
  · rfl
  · split <;> rfl

/-- A dead host side sends nothing more. -/
theorem dead_step {py : Python} {instance_id : ℤ} {replies : List (Message × Message)} {s s' : System ℕ} {ev : Event ℕ}
    (h : Dead replies s) (hs : step py instance_id s ev = some s') : Dead replies s' := by
  cases ev with
  | call t p =>
    obtain ⟨-, rfl⟩ := call_eq_some hs
    exact ⟨h.phase, h.replies⟩
  | acquire t =>
    simp only [step] at hs
    split at hs <;> cases hs
    exact ⟨h.phase, h.replies⟩
  | send t =>
    simp only [step] at hs
    split at hs
    · split at hs <;> cases hs <;> exact ⟨h.phase, h.replies⟩
    · cases hs
  | recv t =>
    simp only [step] at hs
    split at hs <;> cases hs
    exact ⟨h.phase, h.replies⟩
  | release t =>
    simp only [step] at hs
    split at hs <;> cases hs
    exact ⟨h.phase, h.replies⟩
  | plugin_broker bev =>
    obtain ⟨⟨b, sent⟩, -, rfl⟩ := Option.map_eq_some_iff.1 hs
    refine ⟨?_, h.replies⟩
    show (Network.sendPlugin py instance_id _ sent).host.phase = _
    rw [sendPlugin_host]
    exact h.phase
  | host_broker bev =>
    obtain ⟨⟨b, sent⟩, -, rfl⟩ := Option.map_eq_some_iff.1 hs
    refine ⟨?_, h.replies⟩
    show (Network.sendHost py instance_id _ sent).host.phase = _
    rw [sendHost_phase]
    exact h.phase
  -- only `host_send` replies, and a dead host side makes no step
  | host_select | host_recv | host_send =>
    simp only [step, h.phase] at hs
    cases hs

def HostPhase.error : HostPhase → Option PyError
  | .raised e => some e
  | _ => none

/-- The text of the id `-1` is split at its sign: the host side dies on the first request. -/
theorem negative_id_dies : ∃ s : System ℕ, exec (step .reference (-1)) {} (describeRun.take 12) = some s ∧
    s.requests = [(0, "describe params")] ∧ Dead [] s := by
  have hrun : (exec (step .reference (-1)) ({} : System ℕ) (describeRun.take 12)).map
      (fun s => (s.requests, s.network.host.phase.error, s.replies.length)) =
      some ([(0, "describe params")], some .ValueError, 0) := by decide +kernel
  obtain ⟨s, hs, heq⟩ := Option.map_eq_some_iff.1 hrun
  simp only [Prod.mk.injEq] at heq
  obtain ⟨hrequests, hphase, hreplies⟩ := heq
  refine ⟨s, hs, hrequests, ?_, List.length_eq_zero_iff.1 hreplies⟩
  cases hhost : s.network.host.phase with
  | raised e =>
    rw [hhost] at hphase
    exact congrArg _ (Option.some.inj hphase)
  | select | recv | describing => rw [hhost] at hphase; cases hphase

/-- **Not every instance id will do**: with the id `-1` a request is never answered. -/
theorem describe_disagrees : Message.get_instance_prefix .reference (-1) = .ok [45, 48, 48, 48, 48, 48, 48, 49] ∧
    ∃ (evs : List (Event ℕ)) (s : System ℕ), exec (step .reference (-1)) {} evs = some s ∧
      s.network.host.phase = .raised .ValueError ∧ ¬ Agreement .reference (-1) s := by
  obtain ⟨s, hs, hrequests, hdead⟩ := negative_id_dies
  refine ⟨by rfl, _, s, hs, hdead.phase, fun h => ?_⟩
  -- the one request would need a reply, but there is never any
  obtain ⟨evs, u, hu, hsent, hreplies, -⟩ := h.answered
  have hdead' : Dead [] u := exec_inv (fun _ _ _ => dead_step) hdead hu
  have hlen := hsent.length_le
  rw [hdead'.replies] at hreplies
  rw [hrequests, ← hreplies] at hlen
  exact absurd hlen (by decide)

end MfxProxy.Mockup
