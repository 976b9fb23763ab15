import MfxProxy.Lib.Exec
import MfxProxy.Proof.Mockup.Message

/-!
# The stages of a call

The mutex lets one call at a time talk to the host side, so there is one message in the
whole system, and how far it has come fixes the state of every process (`Stage`). The
system therefore refines one in which the calls follow each other, each going through the
stages in order.

* `step_carrying`: a broker with one message forwards it in three steps.
* `Idle`, `Busy`: the states between two calls and within one.
* `idle_step`, `busy_step`: what can happen next.
* `busy_completes`: a call comes to its end.
-/

namespace MfxProxy.Mockup

open Lib

/-! ## A broker with one message -/

/-- How far a process is with the message that it passes on. -/
inductive Hop
  | waiting
  | selected
  | held
  deriving DecidableEq

/-- A broker at whose socket `sock` this message waits. -/
def ProxyBroker.holding (sock : Socket) (data : Bytes) : ProxyBroker where
  sub_socket := if sock = .sub_socket then [data] else []
  pair_socket := if sock = .pair_socket then [data] else []

/-- A broker with no message but this one, which came in at `sock`. -/
def ProxyBroker.carrying (sock : Socket) (data : Bytes) : Hop → ProxyBroker
  | .waiting => .holding sock data
  | .selected => { holding sock data with phase := .recv [sock] }
  | .held => { phase := .forward sock data [] }

/-- What a broker makes of a message that came in at `sock`. -/
def Socket.forwarded : Socket → Bytes → Option Forwarded
  | .pub_socket, _ => none
  | .sub_socket, data => some (.pair_socket data)
  | .pair_socket, data => some (.pub_socket data)

/-- A broker without messages waits. -/
theorem step_empty (ev : BrokerEvent) : ({} : ProxyBroker).step ev = none := by
  cases ev with
  | select rlist =>
    refine if_neg ?_
    rintro ⟨-, hne, -, hready⟩
    obtain ⟨sock, hsock⟩ := List.exists_mem_of_ne_nil rlist hne
    refine (hready sock hsock).2 ?_
    cases sock <;> rfl
  | recv => rfl
  | forward => rfl

/-- The sockets that have a message, without repetition. -/
theorem eq_singleton_of_ready {sock : Socket} {rlist : List Socket} (hne : rlist ≠ []) (hnd : rlist.Nodup)
    (hall : ∀ s ∈ rlist, s = sock) : rlist = [sock] := by
  have hrep := List.eq_replicate_of_mem hall
  have hlen : rlist.length ≤ 1 := by
    rw [hrep, List.nodup_replicate] at hnd
    exact hnd
  have hpos := List.length_pos_of_ne_nil hne
  rw [hrep, show rlist.length = 1 by omega, List.replicate_one]

theorem waiting_holding {sock s : Socket} (hsock : sock ∈ ProxyBroker.rlist_) {data : Bytes} :
    (s ∈ ProxyBroker.rlist_ ∧ (ProxyBroker.holding sock data).waiting s ≠ []) ↔ s = sock := by
  revert hsock
  cases s <;> cases sock <;> simp [ProxyBroker.rlist_, ProxyBroker.holding, ProxyBroker.waiting]

/-- **A broker with one message forwards it in three steps.** -/
theorem step_carrying {sock : Socket} (hsock : sock ∈ ProxyBroker.rlist_) {data : Bytes} {hop : Hop} {ev : BrokerEvent}
    {r : ProxyBroker × Option Forwarded} : (ProxyBroker.carrying sock data hop).step ev = some r ↔
    (hop = .waiting ∧ ev = .select [sock] ∧ r = (.carrying sock data .selected, none)) ∨
    (hop = .selected ∧ ev = .recv ∧ r = (.carrying sock data .held, none)) ∨
    (hop = .held ∧ ev = .forward ∧ r = ({}, sock.forwarded data)) := by
  cases hop with
  | waiting =>
    cases ev with
    | select rlist =>
      -- `zmq.select` can return the one ready socket only
      have hready : ((ProxyBroker.holding sock data).phase = .select ∧ rlist ≠ [] ∧ rlist.Nodup ∧
          ∀ s ∈ rlist, s ∈ ProxyBroker.rlist_ ∧ (ProxyBroker.holding sock data).waiting s ≠ []) ↔ rlist = [sock] := by
        simp only [waiting_holding hsock]
        constructor
        · rintro ⟨-, hne, hnd, hall⟩
          exact eq_singleton_of_ready hne hnd hall
        · rintro rfl
          exact ⟨rfl, by simp, by simp, by simp⟩
      simp only [ProxyBroker.carrying, ProxyBroker.step, hready]
      simp [Option.ite_none_right_eq_some, @eq_comm _ r]
      rintro rfl
      exact Iff.rfl
    | recv => simp [ProxyBroker.carrying, ProxyBroker.step, ProxyBroker.holding]
    | forward => simp [ProxyBroker.carrying, ProxyBroker.step, ProxyBroker.holding]
  | selected =>
    cases ev with
    | select rlist => simp [ProxyBroker.carrying, ProxyBroker.step]
    | recv =>
      revert hsock
      cases sock <;>
        simp [ProxyBroker.carrying, ProxyBroker.step, ProxyBroker.holding, ProxyBroker.rlist_, ProxyBroker.waiting,
          ProxyBroker.pop, @eq_comm _ r]
    | forward => simp [ProxyBroker.carrying, ProxyBroker.step]
  | held =>
    cases ev with
    | select rlist => simp [ProxyBroker.carrying, ProxyBroker.step]
    | recv => simp [ProxyBroker.carrying, ProxyBroker.step]
    | forward =>
      revert hsock
      cases sock <;>
        simp [ProxyBroker.carrying, ProxyBroker.step, ProxyBroker.rlist_, ProxyBroker.endRound, Socket.forwarded,
          @eq_comm _ r]

/-! ## How far a call is -/

/-- A part of the way that is a broker's. -/
inductive Leg
  | requestPlugin
  | requestHost
  | replyHost
  | replyPlugin
  deriving DecidableEq

/-- How far a call is that holds the mutex. -/
inductive Stage
  | sending
  | broker (leg : Leg) (hop : Hop)
  | host (hop : Hop)
  /-- The reply waits at the plugin side. -/
  | answered
  | leaving
  deriving DecidableEq

def Hop.left : Hop → ℕ
  | .waiting => 3
  | .selected => 2
  | .held => 1

namespace Stage

/-- The stage after this one; none after the last. -/
def next : Stage → Option Stage
  | .sending => some (.broker .requestPlugin .waiting)
  | .broker leg .waiting => some (.broker leg .selected)
  | .broker leg .selected => some (.broker leg .held)
  | .broker .requestPlugin .held => some (.broker .requestHost .waiting)
  | .broker .requestHost .held => some (.host .waiting)
  | .host .waiting => some (.host .selected)
  | .host .selected => some (.host .held)
  | .host .held => some (.broker .replyHost .waiting)
  | .broker .replyHost .held => some (.broker .replyPlugin .waiting)
  | .broker .replyPlugin .held => some .answered
  | .answered => some .leaving
  | .leaving => none

/-- The event that ends a stage of the call of thread `t`. -/
def event {τ : Type} (t : τ) : Stage → Event τ
  | .sending => .send t
  | .broker .requestPlugin .waiting => .plugin_broker (.select [.sub_socket])
  | .broker .replyPlugin .waiting => .plugin_broker (.select [.pair_socket])
  | .broker .requestPlugin .selected | .broker .replyPlugin .selected => .plugin_broker .recv
  | .broker .requestPlugin .held | .broker .replyPlugin .held => .plugin_broker .forward
  | .broker .requestHost .waiting => .host_broker (.select [.pair_socket])
  | .broker .replyHost .waiting => .host_broker (.select [.sub_socket])
  | .broker .requestHost .selected | .broker .replyHost .selected => .host_broker .recv
  | .broker .requestHost .held | .broker .replyHost .held => .host_broker .forward
  | .host .waiting => .host_select
  | .host .selected => .host_recv
  | .host .held => .host_send
  | .answered => .recv t
  | .leaving => .release t

/-- The number of stages that are left, this one included. -/
def left : Stage → ℕ
  | .sending => 18
  | .broker .requestPlugin hop => 14 + hop.left
  | .broker .requestHost hop => 11 + hop.left
  | .host hop => 8 + hop.left
  | .broker .replyHost hop => 5 + hop.left
  | .broker .replyPlugin hop => 2 + hop.left
  | .answered => 2
  | .leaving => 1

theorem left_next {stage stage' : Stage} (h : stage.next = some stage') : stage.left = stage'.left + 1 := by
  rcases stage with _ | ⟨_ | _ | _ | _, _ | _ | _⟩ | ⟨_ | _ | _⟩ | _ | _ <;> cases h <;> rfl

theorem left_pos (stage : Stage) : 0 < stage.left := by
  cases stage with
  | broker leg hop => cases leg <;> exact Nat.lt_of_lt_of_le (by decide) (Nat.le_add_right _ _)
  | host hop => exact Nat.lt_of_lt_of_le (by decide) (Nat.le_add_right _ _)
  | sending | answered | leaving => decide

theorem event_ne_call {τ : Type} {t t' : τ} {p : String} (stage : Stage) : stage.event t ≠ .call t' p := by
  rcases stage with _ | ⟨_ | _ | _ | _, _ | _ | _⟩ | ⟨_ | _ | _⟩ | _ | _ <;> exact nofun

/-- The request is sent. -/
def requested : Stage → Bool
  | .sending => false
  | _ => true

/-- The reply is sent. -/
def replied : Stage → Bool
  | .broker .replyHost _ | .broker .replyPlugin _ | .answered | .leaving => true
  | _ => false

/-- The reply is decoded. -/
def decoded : Stage → Bool
  | .leaving => true
  | _ => false

/-- The request was sent, and the reply is not decoded yet. -/
def receiving : Stage → Bool
  | .sending | .leaving => false
  | _ => true

/-- The stage ends by passing on the request, or the reply. -/
def passes : Stage → Bool
  | .broker _ _ | .host .waiting | .host .selected => true
  | _ => false

/-- The call itself does not notice that a message is passed on. -/
theorem passes_next {stage stage' : Stage} (hpass : stage.passes = true) (hnext : stage.next = some stage') :
    stage.receiving = true ∧ stage'.receiving = true ∧ stage'.requested = stage.requested ∧
      stage'.replied = stage.replied ∧ stage'.decoded = stage.decoded := by
  rcases stage with _ | ⟨_ | _ | _ | _, _ | _ | _⟩ | ⟨_ | _ | _⟩ | _ | _ <;> cases hpass <;> cases hnext <;>
    exact ⟨rfl, rfl, rfl, rfl, rfl⟩

end Stage

/-! ## The states between two calls and within one -/

/-- The bytes of a message that can be encoded. -/
def wire (py : Python) (m : Message) : Bytes :=
  match m.to_bytes py with
  | .ok data => data
  | .error _ => []

/-- The message is encoded, decoded again, and delivered to the instances with its id. -/
structure Carries (py : Python) (m : Message) : Prop where
  encoded : m.to_bytes py = .ok (wire py m)
  decoded : Message.from_bytes py (wire py m) = .ok m
  delivered : subscribed py m.instance_id (wire py m) = true

/-- How a call ends that has been answered. -/
def answer (instance_id : ℤ) (parameters : String) : CallEnd :=
  .received (describeEnd instance_id (.str parameters)) (.str "kOfxStatusOk")

/-- The caller in a stage of its call. -/
def Stage.caller (instance_id : ℤ) (parameters : String) : Stage → CallerPhase
  | .sending => .sending parameters
  | .leaving => .leaving (answer instance_id parameters)
  | _ => .receiving parameters

theorem Stage.caller_of_receiving {instance_id : ℤ} {parameters : String} {stage : Stage} (h : stage.receiving = true) :
    stage.caller instance_id parameters = .receiving parameters := by
  cases stage <;> first | rfl | cases h

/-- Everything but the caller in a stage of a call. -/
def Stage.network (py : Python) (instance_id : ℤ) (parameters : String) : Stage → Network
  | .sending | .leaving => {}
  | .broker .requestPlugin hop =>
    { plugin_broker := .carrying .sub_socket (wire py (describeStart instance_id parameters)) hop }
  | .broker .requestHost hop =>
    { host_broker := .carrying .pair_socket (wire py (describeStart instance_id parameters)) hop }
  | .host .waiting => { host := { sub_socket := [wire py (describeStart instance_id parameters)] } }
  | .host .selected => { host := { phase := .recv, sub_socket := [wire py (describeStart instance_id parameters)] } }
  | .host .held => { host := { phase := .describing (describeStart instance_id parameters) (.str parameters) } }
  | .broker .replyHost hop =>
    { host_broker := .carrying .sub_socket (wire py (describeEnd instance_id (.str parameters))) hop }
  | .broker .replyPlugin hop =>
    { plugin_broker := .carrying .pair_socket (wire py (describeEnd instance_id (.str parameters))) hop }
  | .answered => { plugin_sub := [wire py (describeEnd instance_id (.str parameters))] }

/-- The thread is not in the `with` block. -/
def CallerPhase.outer : CallerPhase → Prop
  | .outside | .acquiring _ => True
  | _ => False

/-- The calls whose request was sent, or answered, and so on: those that are done, and the
current one if it is so far. -/
def upTo {τ : Type} (done : List (τ × String)) (current : τ × String) (far : Bool) : List (τ × String) :=
  if far then done ++ [current] else done

/-- The replies that belong to some calls. -/
def repliesTo {τ : Type} (instance_id : ℤ) (calls : List (τ × String)) : List (Message × Message) :=
  calls.map fun c => (describeStart instance_id c.2, describeEnd instance_id (.str c.2))

/-- The ends that belong to some calls. -/
def endsOf {τ : Type} (instance_id : ℤ) (calls : List (τ × String)) : List (τ × String × CallEnd) :=
  calls.map fun c => (c.1, c.2, answer instance_id c.2)

/-- No thread is in the `with` block, and the calls of `done` are over. -/
structure Idle {τ : Type} (instance_id : ℤ) (done : List (τ × String)) (s : System τ) : Prop where
  mutex : s.mutex = none
  outer : ∀ t, (s.caller t).outer
  network : s.network = {}
  requests : s.requests = done
  replies : s.replies = repliesTo instance_id done
  ended : s.ended = endsOf instance_id done
  unexpected : s.unexpected = []

/-- Thread `t` is in the `with` block, its call has come to `stage`, and before it the calls
of `done` were over. -/
structure Busy {τ : Type} (py : Python) (instance_id : ℤ) (done : List (τ × String)) (t : τ) (parameters : String)
    (stage : Stage) (s : System τ) : Prop where
  mutex : s.mutex = some t
  caller : s.caller t = stage.caller instance_id parameters
  outer : ∀ t' ≠ t, (s.caller t').outer
  network : s.network = stage.network py instance_id parameters
  requests : s.requests = upTo done (t, parameters) stage.requested
  replies : s.replies = repliesTo instance_id (upTo done (t, parameters) stage.replied)
  ended : s.ended = endsOf instance_id (upTo done (t, parameters) stage.decoded)
  unexpected : s.unexpected = []

/-! ## What can happen within a call -/

section steps

variable {τ : Type} [DecidableEq τ] {py : Python} {instance_id : ℤ} {done : List (τ × String)} {t : τ}
  {parameters : String} {stage stage' : Stage} {s s' : System τ} {ev : Event τ}

/-- The call goes on to its next stage. -/
def Advances (py : Python) (instance_id : ℤ) (done : List (τ × String)) (t : τ) (parameters : String) (stage : Stage)
    (ev : Event τ) (s' : System τ) : Prop :=
  ev = stage.event t ∧ ∃ stage', stage.next = some stage' ∧ Busy py instance_id done t parameters stage' s'

omit [DecidableEq τ] in
/-- A message is passed on: nothing changes but the network. -/
theorem Busy.pass (h : Busy py instance_id done t parameters stage s) {stage' : Stage}
    (hnext : stage.next = some stage') (hpass : stage.passes = true) (hev : ev = stage.event t) {network : Network}
    (hnetwork : network = stage'.network py instance_id parameters) :
    Advances py instance_id done t parameters stage ev { s with network := network } := by
  obtain ⟨hreceiving, hreceiving', hrequested, hreplied, hdecoded⟩ := Stage.passes_next hpass hnext
  refine ⟨hev, stage', hnext, ?_⟩
  constructor
  · exact h.mutex
  · rw [Stage.caller_of_receiving hreceiving', ← Stage.caller_of_receiving hreceiving]
    exact h.caller
  · exact h.outer
  · exact hnetwork
  · rw [hrequested]
    exact h.requests
  · rw [hreplied]
    exact h.replies
  · rw [hdecoded]
    exact h.ended
  · exact h.unexpected

theorem busy_plugin_broker (hend : ∀ p, Carries py (describeEnd instance_id (.str p)))
    (h : Busy py instance_id done t parameters stage s) {bev : BrokerEvent}
    (hs : step py instance_id s (.plugin_broker bev) = some s') :
    Advances py instance_id done t parameters stage (.plugin_broker bev) s' := by
  obtain ⟨⟨b, sent⟩, hstep, rfl⟩ := Option.map_eq_some_iff.1 hs
  rw [h.network] at hstep
  have hfree : ({} : ProxyBroker).step bev ≠ some (b, sent) := by
    rw [step_empty]
    exact nofun
  cases stage with
  | sending => exact (hfree hstep).elim
  | answered => exact (hfree hstep).elim
  | leaving => exact (hfree hstep).elim
  | host hop => cases hop <;> exact (hfree hstep).elim
  | broker leg hop =>
    cases leg with
    | requestHost => exact (hfree hstep).elim
    | replyHost => exact (hfree hstep).elim
    | requestPlugin =>
      rcases (step_carrying (by decide)).1 hstep with ⟨rfl, rfl, hr⟩ | ⟨rfl, rfl, hr⟩ | ⟨rfl, rfl, hr⟩ <;>
        obtain ⟨rfl, rfl⟩ := Prod.mk.inj hr
      · exact h.pass rfl rfl rfl (by rw [h.network]; rfl)
      · exact h.pass rfl rfl rfl (by rw [h.network]; rfl)
      · exact h.pass rfl rfl rfl (by rw [h.network]; rfl)
    | replyPlugin =>
      rcases (step_carrying (by decide)).1 hstep with ⟨rfl, rfl, hr⟩ | ⟨rfl, rfl, hr⟩ | ⟨rfl, rfl, hr⟩ <;>
        obtain ⟨rfl, rfl⟩ := Prod.mk.inj hr
      · exact h.pass rfl rfl rfl (by rw [h.network]; rfl)
      · exact h.pass rfl rfl rfl (by rw [h.network]; rfl)
      · have hdel := (hend parameters).delivered
        refine h.pass rfl rfl rfl ?_
        rw [h.network]
        exact if_pos hdel

theorem busy_host_broker (hstart : ∀ p, Carries py (describeStart instance_id p))
    (h : Busy py instance_id done t parameters stage s) {bev : BrokerEvent}
    (hs : step py instance_id s (.host_broker bev) = some s') :
    Advances py instance_id done t parameters stage (.host_broker bev) s' := by
  obtain ⟨⟨b, sent⟩, hstep, rfl⟩ := Option.map_eq_some_iff.1 hs
  rw [h.network] at hstep
  have hfree : ({} : ProxyBroker).step bev ≠ some (b, sent) := by
    rw [step_empty]
    exact nofun
  cases stage with
  | sending => exact (hfree hstep).elim
  | answered => exact (hfree hstep).elim
  | leaving => exact (hfree hstep).elim
  | host hop => cases hop <;> exact (hfree hstep).elim
  | broker leg hop =>
    cases leg with
    | requestPlugin => exact (hfree hstep).elim
    | replyPlugin => exact (hfree hstep).elim
    | requestHost =>
      rcases (step_carrying (by decide)).1 hstep with ⟨rfl, rfl, hr⟩ | ⟨rfl, rfl, hr⟩ | ⟨rfl, rfl, hr⟩ <;>
        obtain ⟨rfl, rfl⟩ := Prod.mk.inj hr
      · exact h.pass rfl rfl rfl (by rw [h.network]; rfl)
      · exact h.pass rfl rfl rfl (by rw [h.network]; rfl)
      · have hdel := (hstart parameters).delivered
        refine h.pass rfl rfl rfl ?_
        rw [h.network]
        exact if_pos hdel
    | replyHost =>
      rcases (step_carrying (by decide)).1 hstep with ⟨rfl, rfl, hr⟩ | ⟨rfl, rfl, hr⟩ | ⟨rfl, rfl, hr⟩ <;>
        obtain ⟨rfl, rfl⟩ := Prod.mk.inj hr
      · exact h.pass rfl rfl rfl (by rw [h.network]; rfl)
      · exact h.pass rfl rfl rfl (by rw [h.network]; rfl)
      · exact h.pass rfl rfl rfl (by rw [h.network]; rfl)

/-- The host side decodes a request. -/
theorem hostReceives_start {p : String} (h : Carries py (describeStart instance_id p)) :
    hostReceives py (wire py (describeStart instance_id p)) =
      (.describing (describeStart instance_id p) (.str p), []) := by
  rw [hostReceives, h.decoded]
  rfl

/-- A caller decodes the reply to its request. -/
theorem pluginReceives_end {p : String} (h : Carries py (describeEnd instance_id (.str p))) :
    pluginReceives py (wire py (describeEnd instance_id (.str p))) = answer instance_id p := by
  rw [pluginReceives, h.decoded]
  rfl

theorem busy_host_select (h : Busy py instance_id done t parameters stage s)
    (hs : step py instance_id s .host_select = some s') :
    Advances py instance_id done t parameters stage .host_select s' := by
  simp only [step, h.network] at hs
  cases stage with
  | sending => cases hs
  | answered => cases hs
  | leaving => cases hs
  | broker leg hop => cases leg <;> cases hs
  | host hop =>
    cases hop with
    | waiting =>
      obtain rfl := Option.some.inj hs
      exact h.pass rfl rfl rfl rfl
    | selected => cases hs
    | held => cases hs

theorem busy_host_recv (hstart : ∀ p, Carries py (describeStart instance_id p))
    (h : Busy py instance_id done t parameters stage s) (hs : step py instance_id s .host_recv = some s') :
    Advances py instance_id done t parameters stage .host_recv s' := by
  simp only [step, h.network] at hs
  cases stage with
  | sending => cases hs
  | answered => cases hs
  | leaving => cases hs
  | broker leg hop => cases leg <;> cases hs
  | host hop =>
    cases hop with
    | waiting => cases hs
    | selected =>
      simp only [Stage.network, hostReceives_start (hstart parameters), List.append_nil] at hs
      obtain rfl := Option.some.inj hs
      exact h.pass rfl rfl rfl rfl
    | held => cases hs

theorem busy_host_send (hend : ∀ p, Carries py (describeEnd instance_id (.str p)))
    (h : Busy py instance_id done t parameters stage s) (hs : step py instance_id s .host_send = some s') :
    Advances py instance_id done t parameters stage .host_send s' := by
  simp only [step, h.network] at hs
  cases stage with
  | sending => cases hs
  | answered => cases hs
  | leaving => cases hs
  | broker leg hop => cases leg <;> cases hs
  | host hop =>
    cases hop with
    | waiting => cases hs
    | selected => cases hs
    | held =>
      simp only [Stage.network, (hend parameters).encoded] at hs
      obtain rfl := Option.some.inj hs
      refine ⟨rfl, .broker .replyHost .waiting, rfl, ?_⟩
      constructor
      · exact h.mutex
      · exact h.caller
      · exact h.outer
      · rfl
      · exact h.requests
      · simp [h.replies, Stage.replied, upTo, repliesTo]
      · exact h.ended
      · exact h.unexpected

/-- A thread that is not in the `with` block cannot go on there. -/
theorem step_outer {t' : τ} (ho : (s.caller t').outer) : step py instance_id s (.send t') = none ∧
    step py instance_id s (.recv t') = none ∧ step py instance_id s (.release t') = none := by
  cases hc : s.caller t' with
  | outside => simp [step, hc]
  | acquiring p => simp [step, hc]
  | sending p => rw [hc] at ho; exact ho.elim
  | receiving p => rw [hc] at ho; exact ho.elim
  | leaving r => rw [hc] at ho; exact ho.elim

theorem busy_send (hstart : ∀ p, Carries py (describeStart instance_id p))
    (h : Busy py instance_id done t parameters stage s) (hs : step py instance_id s (.send t) = some s') :
    Advances py instance_id done t parameters stage (.send t) s' := by
  simp only [step, h.caller] at hs
  cases stage with
  | broker leg hop => cases hs
  | host hop => cases hs
  | answered => cases hs
  | leaving => cases hs
  | sending =>
    simp only [Stage.caller, (hstart parameters).encoded] at hs
    obtain rfl := Option.some.inj hs
    refine ⟨rfl, .broker .requestPlugin .waiting, rfl, ?_⟩
    constructor
    · exact h.mutex
    · exact System.goto_self
    · intro t' ht'
      rw [System.goto_of_ne ht']
      exact h.outer t' ht'
    · rw [System.goto, h.network]
      rfl
    · simp [System.goto, h.requests, Stage.requested, upTo]
    · exact h.replies
    · exact h.ended
    · exact h.unexpected

theorem busy_recv (hend : ∀ p, Carries py (describeEnd instance_id (.str p)))
    (h : Busy py instance_id done t parameters stage s) (hs : step py instance_id s (.recv t) = some s') :
    Advances py instance_id done t parameters stage (.recv t) s' := by
  simp only [step, h.caller, h.network] at hs
  cases stage with
  | sending => cases hs
  | broker leg hop => cases leg <;> cases hs
  | host hop => cases hop <;> cases hs
  | leaving => cases hs
  | answered =>
    simp only [Stage.caller, Stage.network, pluginReceives_end (hend parameters)] at hs
    obtain rfl := Option.some.inj hs
    refine ⟨rfl, .leaving, rfl, ?_⟩
    constructor
    · exact h.mutex
    · exact System.goto_self
    · intro t' ht'
      rw [System.finish, System.goto_of_ne ht']
      exact h.outer t' ht'
    · rfl
    · exact h.requests
    · exact h.replies
    · simp [System.finish, System.goto, h.ended, Stage.decoded, upTo, endsOf]
    · exact h.unexpected

/-- The end of a call. -/
theorem busy_release (h : Busy py instance_id done t parameters stage s)
    (hs : step py instance_id s (.release t) = some s') :
    stage = .leaving ∧ Idle instance_id (done ++ [(t, parameters)]) s' := by
  simp only [step, h.caller] at hs
  cases stage with
  | sending => cases hs
  | broker leg hop => cases hs
  | host hop => cases hs
  | answered => cases hs
  | leaving =>
    obtain rfl := Option.some.inj hs
    refine ⟨rfl, ?_⟩
    constructor
    · rfl
    · intro t'
      by_cases ht' : t' = t
      · subst ht'
        rw [System.goto_self]
        trivial
      · rw [System.goto_of_ne ht']
        exact h.outer t' ht'
    · exact h.network
    · exact h.requests
    · exact h.replies
    · exact h.ended
    · exact h.unexpected

/-- A thread that is outside calls. -/
theorem call_eq_some {t' : τ} {p : String} (hs : step py instance_id s (.call t' p) = some s') :
    s.caller t' = .outside ∧ s' = s.goto t' (.acquiring p) := by
  simp only [step] at hs
  split at hs
  · rename_i hc
    exact ⟨hc, (Option.some.inj hs).symm⟩
  · cases hs

/-- **What can happen within a call**: another thread calls, or the call goes on by the one
event of its stage, which after the last stage is its end. -/
theorem busy_step (hstart : ∀ p, Carries py (describeStart instance_id p))
    (hend : ∀ p, Carries py (describeEnd instance_id (.str p))) (h : Busy py instance_id done t parameters stage s)
    (hs : step py instance_id s ev = some s') :
    (∃ t' p, ev = .call t' p ∧ Busy py instance_id done t parameters stage s') ∨
    Advances py instance_id done t parameters stage ev s' ∨
    (stage = .leaving ∧ ev = .release t ∧ Idle instance_id (done ++ [(t, parameters)]) s') := by
  cases ev with
  | call t' p =>
    refine Or.inl ⟨t', p, rfl, ?_⟩
    obtain ⟨hc, rfl⟩ := call_eq_some hs
    -- the thread in the `with` block is inside its call already
    have hne : t ≠ t' := by
      rintro rfl
      rw [h.caller] at hc
      cases stage <;> cases hc
    refine { h with caller := ?_, outer := ?_ }
    · rw [System.goto_of_ne hne]
      exact h.caller
    · intro t'' ht''
      by_cases heq : t'' = t'
      · subst heq
        rw [System.goto_self]
        trivial
      · rw [System.goto_of_ne heq]
        exact h.outer t'' ht''
  -- the mutex is taken
  | acquire t' =>
    simp only [step, h.mutex] at hs
    split at hs
    · rename_i hc
      cases hc
    · cases hs
  | send t' =>
    by_cases heq : t' = t
    · subst heq
      exact Or.inr (Or.inl (busy_send hstart h hs))
    · rw [(step_outer (h.outer t' heq)).1] at hs
      cases hs
  | recv t' =>
    by_cases heq : t' = t
    · subst heq
      exact Or.inr (Or.inl (busy_recv hend h hs))
    · rw [(step_outer (h.outer t' heq)).2.1] at hs
      cases hs
  | release t' =>
    by_cases heq : t' = t
    · subst heq
      obtain ⟨hstage, hidle⟩ := busy_release h hs
      exact Or.inr (Or.inr ⟨hstage, rfl, hidle⟩)
    · rw [(step_outer (h.outer t' heq)).2.2] at hs
      cases hs
  | plugin_broker bev => exact Or.inr (Or.inl (busy_plugin_broker hend h hs))
  | host_broker bev => exact Or.inr (Or.inl (busy_host_broker hstart h hs))
  | host_select => exact Or.inr (Or.inl (busy_host_select h hs))
  | host_recv => exact Or.inr (Or.inl (busy_host_recv hstart h hs))
  | host_send => exact Or.inr (Or.inl (busy_host_send hend h hs))

/-- **What can happen between two calls**: a thread calls, or gets the mutex. -/
theorem idle_step (h : Idle instance_id done s) (hs : step py instance_id s ev = some s') :
    (∃ t p, ev = .call t p ∧ Idle instance_id done s') ∨
    ∃ t p, ev = .acquire t ∧ Busy py instance_id done t p .sending s' := by
  cases ev with
  | call t p =>
    refine Or.inl ⟨t, p, rfl, ?_⟩
    obtain ⟨-, rfl⟩ := call_eq_some hs
    refine { h with outer := ?_ }
    intro t'
    by_cases heq : t' = t
    · subst heq
      rw [System.goto_self]
      trivial
    · rw [System.goto_of_ne heq]
      exact h.outer t'
  | acquire t =>
    simp only [step] at hs
    split at hs
    · rename_i p hc hm
      obtain rfl := Option.some.inj hs
      refine Or.inr ⟨t, p, rfl, ?_⟩
      constructor
      · rfl
      · exact System.goto_self
      · intro t' ht'
        rw [System.goto_of_ne ht']
        exact h.outer t'
      · exact h.network
      · exact h.requests
      · exact h.replies
      · exact h.ended
      · exact h.unexpected
    · cases hs
  | send t =>
    rw [(step_outer (h.outer t)).1] at hs
    cases hs
  | recv t =>
    rw [(step_outer (h.outer t)).2.1] at hs
    cases hs
  | release t =>
    rw [(step_outer (h.outer t)).2.2] at hs
    cases hs
  -- nothing is in flight, so no process but the callers can move
  | plugin_broker bev =>
    simp only [step, h.network, step_empty] at hs
    cases hs
  | host_broker bev =>
    simp only [step, h.network, step_empty] at hs
    cases hs
  | host_select =>
    simp only [step, h.network] at hs
    cases hs
  | host_recv =>
    simp only [step, h.network] at hs
    cases hs
  | host_send =>
    simp only [step, h.network] at hs
    cases hs

/-- The event of a stage can happen. -/
theorem busy_enabled (hstart : ∀ p, Carries py (describeStart instance_id p))
    (hend : ∀ p, Carries py (describeEnd instance_id (.str p))) (h : Busy py instance_id done t parameters stage s) :
    ∃ s', step py instance_id s (stage.event t) = some s' := by
  cases stage with
  | sending =>
    simp only [Stage.event, step, h.caller, Stage.caller, (hstart parameters).encoded]
    exact ⟨_, rfl⟩
  | answered =>
    simp only [Stage.event, step, h.caller, h.network, Stage.caller, Stage.network]
    exact ⟨_, rfl⟩
  | leaving =>
    simp only [Stage.event, step, h.caller, Stage.caller]
    exact ⟨_, rfl⟩
  | host hop =>
    cases hop with
    | waiting =>
      simp only [Stage.event, step, h.network, Stage.network]
      exact ⟨_, rfl⟩
    | selected =>
      simp only [Stage.event, step, h.network, Stage.network]
      exact ⟨_, rfl⟩
    | held =>
      simp only [Stage.event, step, h.network, Stage.network, (hend parameters).encoded]
      exact ⟨_, rfl⟩
  | broker leg hop =>
    have hcarry : ∀ {sock : Socket} {data : Bytes}, sock ∈ ProxyBroker.rlist_ →
        ((ProxyBroker.carrying sock data .waiting).step (.select [sock])).isSome ∧
        ((ProxyBroker.carrying sock data .selected).step .recv).isSome ∧
        ((ProxyBroker.carrying sock data .held).step .forward).isSome := by
      intro sock data hsock
      rw [(step_carrying hsock).2 (Or.inl ⟨rfl, rfl, rfl⟩), (step_carrying hsock).2 (Or.inr (Or.inl ⟨rfl, rfl, rfl⟩)),
        (step_carrying hsock).2 (Or.inr (Or.inr ⟨rfl, rfl, rfl⟩))]
      exact ⟨rfl, rfl, rfl⟩
    rw [← Option.isSome_iff_exists]
    cases leg <;> cases hop <;> simp only [Stage.event, step, h.network, Stage.network, Option.isSome_map]
    all_goals first
      | exact (hcarry (by decide)).1
      | exact (hcarry (by decide)).2.1
      | exact (hcarry (by decide)).2.2

/-- **A call comes to its end**, by the events of its stages alone. -/
theorem busy_completes (hstart : ∀ p, Carries py (describeStart instance_id p))
    (hend : ∀ p, Carries py (describeEnd instance_id (.str p))) (h : Busy py instance_id done t parameters stage s) :
    ∃ evs u, evs.length = stage.left ∧ exec (step py instance_id) s evs = some u ∧
      Idle instance_id (done ++ [(t, parameters)]) u := by
  -- by induction on the stages that are left
  obtain ⟨n, hn⟩ : ∃ n, stage.left = n := ⟨_, rfl⟩
  induction n generalizing stage s with
  | zero =>
    have hpos := stage.left_pos
    omega
  | succ n ih =>
    obtain ⟨s', hs'⟩ := busy_enabled hstart hend h
    rcases busy_step hstart hend h hs' with ⟨t', p, hev, -⟩ | ⟨-, stage', hnext, hbusy⟩ | ⟨rfl, -, hidle⟩
    · exact (stage.event_ne_call hev).elim
    · have hleft := Stage.left_next hnext
      obtain ⟨evs, u, hlen, hu, hidle⟩ := ih hbusy (by omega)
      exact ⟨stage.event t :: evs, u, by rw [List.length_cons]; omega, exec_cons.2 ⟨s', hs', hu⟩, hidle⟩
    · exact ⟨[.release t], s', rfl, exec_cons.2 ⟨s', hs', rfl⟩, hidle⟩

end steps

end MfxProxy.Mockup
