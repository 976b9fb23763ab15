import MfxProxy.Lib.Exec
import MfxProxy.Spec.Mockup.Message

/-!
# The processes of the Python mockup

One plugin-side `ProxyPluginInstance` with the threads `τ` that call its
`action_describe`, the two `ProxyBroker`s, and the host-side `ProxyPluginInstance` of the
same id in its `run_proxy_thread`. The steps of all of them interleave freely.

ZMQ is taken as lossless FIFO queues with the subscriptions in place: what is sent on a
socket is at once with the socket at the other end, if that subscribes to it. No error is
ever reported for a socket. What is printed is left out.
-/

namespace MfxProxy.Mockup

/-! ## `ProxyBroker` -/

inductive Socket
  | pub_socket
  | sub_socket
  | pair_socket
  deriving DecidableEq

/-- Where `ProxyBroker.run_proxy_thread` is. -/
inductive BrokerPhase
  /-- At `zmq.select`. -/
  | select
  /-- At `sock.recv()`, with `sock` the first of these sockets. -/
  | recv (rlist : List Socket)
  /-- `sock.recv()` has returned `data`, and these sockets are still to come. -/
  | forward (sock : Socket) (data : Bytes) (rlist : List Socket)
  | raised (e : PyError)
  deriving DecidableEq

/-- A broker with the messages that wait at its sockets. -/
structure ProxyBroker where
  phase : BrokerPhase := .select
  sub_socket : List Bytes := []
  pair_socket : List Bytes := []

inductive BrokerEvent
  /-- `zmq.select` returns these sockets. -/
  | select (rlist : List Socket)
  | recv
  | forward

/-- What a broker sends. -/
inductive Forwarded
  | pair_socket (data : Bytes)
  | pub_socket (data : Bytes)

namespace ProxyBroker

def rlist_ : List Socket := [.sub_socket, .pair_socket]

variable (self : ProxyBroker)

def waiting : Socket → List Bytes
  | .pub_socket => []
  | .sub_socket => self.sub_socket
  | .pair_socket => self.pair_socket

/-- The broker without the oldest message at a socket. -/
def pop : Socket → ProxyBroker
  | .pub_socket => self
  | .sub_socket => { self with sub_socket := self.sub_socket.tail }
  | .pair_socket => { self with pair_socket := self.pair_socket.tail }

/-- The end of a round of `for sock in rlist`. -/
def endRound (rlist : List Socket) : ProxyBroker :=
  { self with phase := if rlist = [] then .select else .recv rlist }

/-- One event of `run_proxy_thread`. `zmq.select` returns once a socket is ready, and
gives the ready ones in any order. -/
def step : BrokerEvent → Option (ProxyBroker × Option Forwarded)
  | .select rlist =>
    if self.phase = .select ∧ rlist ≠ [] ∧ rlist.Nodup ∧ ∀ sock ∈ rlist, sock ∈ rlist_ ∧ self.waiting sock ≠ [] then
      some ({ self with phase := .recv rlist }, none)
    else none
  | .recv =>
    match self.phase with
    | .recv (sock :: rlist) =>
      match self.waiting sock with
      | data :: _ => some ({ self.pop sock with phase := .forward sock data rlist }, none)
      | [] => none
    | _ => none
  | .forward =>
    match self.phase with
    -- everything goes on: a broker does not look into a message
    | .forward .sub_socket data rlist => some (self.endRound rlist, some (.pair_socket data))
    | .forward .pair_socket data rlist => some (self.endRound rlist, some (.pub_socket data))
    | .forward .pub_socket _ _ => some ({ self with phase := .raised .RuntimeError }, none)
    | _ => none

end ProxyBroker

/-! ## `ProxyPluginInstance` -/

/-- `make_request_message` of `_plugin_action_describe`. -/
def describeStart (instance_id : ℤ) (parameters : String) : Message where
  instance_id := instance_id
  type_ := .ActionDescribeStart
  data := .dict [("parameters", .str parameters)]

/-- `make_request_message` of `_host_action_describe`. -/
def describeEnd (instance_id : ℤ) (parameters : Json) : Message where
  instance_id := instance_id
  type_ := .ActionDescribeEnd
  data := .dict
    [("inputs", .list [.str "input1", .str "input2"]),
     ("parameters", .list [.str "a", .str "b", parameters]),
     ("status", .str "kOfxStatusOk")]

/-- How `_plugin_action_describe` ends. -/
inductive CallEnd
  /-- An `ActionDescribeEnd` was decoded, and its status is returned. -/
  | received (msg : Message) (status : Json)
  /-- Another message was decoded: an unexpected message in describe. -/
  | unexpected (msg : Message)
  | raised (e : PyError)

/-- What the call returns. -/
def CallEnd.result : CallEnd → Except PyError Json
  | .received _ status => .ok status
  | .unexpected _ => .ok (.str "kOfxStatusErr")
  | .raised e => .error e

/-- `_plugin_action_describe` on what it receives. -/
def pluginReceives (py : Python) (data : Bytes) : CallEnd :=
  match Message.from_bytes py data with
  | .error e => .raised e
  | .ok msg =>
    if msg.type_ = .ActionDescribeEnd then
      let status : Except PyError Json := do
        -- the three keys are read in this order, and one that is missing raises
        let _ ← msg.data.getitem "inputs"
        let _ ← msg.data.getitem "parameters"
        msg.data.getitem "status"
      match status with
      | .ok status => .received msg status
      | .error e => .raised e
    else .unexpected msg

/-- Where a thread that calls `action_describe` on the plugin side is. -/
inductive CallerPhase
  | outside
  /-- At `with self.mutex`. -/
  | acquiring (parameters : String)
  /-- About to send its request. -/
  | sending (parameters : String)
  /-- At `sub_socket.recv()`. -/
  | receiving (parameters : String)
  /-- At the end of the `with` block. -/
  | leaving (result : CallEnd)

/-- Where `run_proxy_thread` of the host side is. -/
inductive HostPhase
  | select
  /-- At `sock.recv()`. -/
  | recv
  /-- In `_host_action_describe`, for a request with these parameters. -/
  | describing (request : Message) (parameters : Json)
  | raised (e : PyError)

/-- The host side with the messages that wait at its socket. -/
structure HostInstance where
  phase : HostPhase := .select
  sub_socket : List Bytes := []

/-- `run_proxy_thread` on what it receives: where it goes on, and the message if it is
unexpected. -/
def hostReceives (py : Python) (data : Bytes) : HostPhase × List Message :=
  match Message.from_bytes py data with
  | .error e => (.raised e, [])
  | .ok msg =>
    if msg.type_ = .ActionDescribeStart then
      match msg.data.getitem "parameters" with
      | .ok parameters => (.describing msg parameters, [])
      | .error e => (.raised e, [])
    else (.select, [msg])

/-! ## All of them together -/

/-- The brokers, the host side, and what waits at the plugin side's `sub_socket`. -/
structure Network where
  plugin_broker : ProxyBroker := {}
  host_broker : ProxyBroker := {}
  host : HostInstance := {}
  plugin_sub : List Bytes := []

structure System (τ : Type) where
  mutex : Option τ := none
  caller : τ → CallerPhase := fun _ => .outside
  network : Network := {}
  /-- The calls that have sent their request, in order. -/
  requests : List (τ × String) := []
  /-- The requests that the host side has answered, with its replies, in order. -/
  replies : List (Message × Message) := []
  /-- How the calls so far ended, in order. -/
  ended : List (τ × String × CallEnd) := []
  /-- What the host side has called an unexpected message. -/
  unexpected : List Message := []

inductive Event (τ : Type)
  /-- A thread calls `action_describe`. -/
  | call (t : τ) (parameters : String)
  | acquire (t : τ)
  | send (t : τ)
  | recv (t : τ)
  | release (t : τ)
  | plugin_broker (ev : BrokerEvent)
  | host_broker (ev : BrokerEvent)
  | host_select
  | host_recv
  /-- `_host_action_describe` sends its reply. -/
  | host_send

/-- A socket subscribed to the prefix of an instance gets this message. -/
def subscribed (py : Python) (instance_id : ℤ) (data : Bytes) : Bool :=
  match Message.get_instance_prefix py instance_id with
  | .ok p => p.isPrefixOf data
  | .error _ => false

namespace Network

variable (py : Python) (instance_id : ℤ) (s : Network)

/-- What the plugin side's broker sends reaches the other broker or the plugin side. -/
def sendPlugin : Option Forwarded → Network
  | none => s
  | some (.pair_socket data) =>
    { s with host_broker := { s.host_broker with pair_socket := s.host_broker.pair_socket ++ [data] } }
  | some (.pub_socket data) =>
    if subscribed py instance_id data then { s with plugin_sub := s.plugin_sub ++ [data] } else s

/-- What the host side's broker sends reaches the other broker or the host side. -/
def sendHost : Option Forwarded → Network
  | none => s
  | some (.pair_socket data) =>
    { s with plugin_broker := { s.plugin_broker with pair_socket := s.plugin_broker.pair_socket ++ [data] } }
  | some (.pub_socket data) =>
    if subscribed py instance_id data then { s with host := { s.host with sub_socket := s.host.sub_socket ++ [data] } }
    else s

/-- The plugin side sends on its `pub_socket`. -/
def request (data : Bytes) : Network :=
  { s with plugin_broker := { s.plugin_broker with sub_socket := s.plugin_broker.sub_socket ++ [data] } }

/-- The host side sends on its `pub_socket`. -/
def reply (data : Bytes) : Network :=
  { s with host_broker := { s.host_broker with sub_socket := s.host_broker.sub_socket ++ [data] } }

end Network

section step

variable {τ : Type} [DecidableEq τ] (py : Python) (instance_id : ℤ) (s : System τ)

/-- The thread `t` goes on in `phase`. -/
def System.goto (t : τ) (phase : CallerPhase) : System τ :=
  { s with caller := Function.update s.caller t phase }

variable {s} in
@[simp] theorem System.goto_self {t : τ} {phase : CallerPhase} : (s.goto t phase).caller t = phase :=
  Function.update_self ..

variable {s} in
theorem System.goto_of_ne {t t' : τ} {phase : CallerPhase} (h : t' ≠ t) : (s.goto t phase).caller t' = s.caller t' :=
  Function.update_of_ne h ..

/-- The call of `t` is over up to its `with` block. -/
def System.finish (t : τ) (parameters : String) (result : CallEnd) : System τ :=
  { s with ended := s.ended ++ [(t, parameters, result)] }.goto t (.leaving result)

/-- One event. -/
def step : Event τ → Option (System τ)
  | .call t parameters =>
    match s.caller t with
    | .outside => some (s.goto t (.acquiring parameters))
    | _ => none
  | .acquire t =>
    match s.caller t, s.mutex with
    | .acquiring parameters, none => some ({ s with mutex := some t }.goto t (.sending parameters))
    | _, _ => none
  | .send t =>
    match s.caller t with
    | .sending parameters =>
      match (describeStart instance_id parameters).to_bytes py with
      | .ok data =>
        some ({ s with
          network := s.network.request data
          requests := s.requests ++ [(t, parameters)] }.goto t (.receiving parameters))
      -- `to_bytes` raises inside the `with` block, which releases the mutex
      | .error e => some (s.finish t parameters (.raised e))
    | _ => none
  | .recv t =>
    match s.caller t, s.network.plugin_sub with
    | .receiving parameters, data :: rest =>
      some ({ s with network := { s.network with plugin_sub := rest } }.finish t parameters (pluginReceives py data))
    | _, _ => none
  | .release t =>
    match s.caller t with
    | .leaving _ => some ({ s with mutex := none }.goto t .outside)
    | _ => none
  | .plugin_broker ev =>
    (s.network.plugin_broker.step ev).map fun (b, sent) =>
      { s with network := { s.network with plugin_broker := b }.sendPlugin py instance_id sent }
  | .host_broker ev =>
    (s.network.host_broker.step ev).map fun (b, sent) =>
      { s with network := { s.network with host_broker := b }.sendHost py instance_id sent }
  | .host_select =>
    match s.network.host.phase, s.network.host.sub_socket with
    | .select, _ :: _ => some { s with network := { s.network with host := { s.network.host with phase := .recv } } }
    | _, _ => none
  | .host_recv =>
    -- an exception leaves `run_proxy_thread` and so ends the thread
    match s.network.host.phase, s.network.host.sub_socket with
    | .recv, data :: rest =>
      let (phase, unexpected) := hostReceives py data
      some { s with
        network := { s.network with host := ⟨phase, rest⟩ }
        unexpected := s.unexpected ++ unexpected }
    | _, _ => none
  | .host_send =>
    match s.network.host.phase with
    | .describing request parameters =>
      let msg := describeEnd instance_id parameters
      match msg.to_bytes py with
      | .ok data =>
        let network := { s.network with host := { s.network.host with phase := .select } }.reply data
        some { s with network := network, replies := s.replies ++ [(request, msg)] }
      | .error e => some { s with network := { s.network with host := { s.network.host with phase := .raised e } } }
    | _ => none

end step

end MfxProxy.Mockup
