import MfxProxy.Spec.Mockup.ProxyLib
import MfxProxy.Spec.Mockup.System

/-!
# The two scripts of the mockup

`proxy_plugin.py` with its main thread and its broker's thread, and `proxy_host.py`, which it
starts, with its main thread, which runs the broker, and the thread of its instance. The steps of
all four interleave freely.

The sockets are those of `MfxProxy.Mockup.System`, and both scripts set them up. The loops of the
two brokers are `ProxyBroker.run_proxy_thread` of `main.py` line by line, so they are
`ProxyBroker.step`. There is no clock: a poll ends without a message whenever none is there.
-/

namespace MfxProxy.Mockup.ProxyLib

/-! ## `ProxyPluginInstance` -/

/-- `make_request_message` of `_plugin_action_describe`. -/
def describeStart (instance_id : ℤ) (parameters : String) : Message where
  instance_id := instance_id
  type_ := .ActionDescribeStart
  data := .dict [("parameters", .str parameters)]

/-- `make_request_message` of `_host_action_describe`. -/
def describeEnd (instance_id : ℤ) (parameters : Json) : Message where
  instance_id := instance_id
  type_ := .ActionDescribeEnd
  data := .dict
    [("inputs", .list [.str "input1", .str "input2"]),
     ("parameters", .list [.str "a", .str "b", parameters]),
     ("status", .str "kOfxStatusOk")]

variable (py : Python)

/-- `_plugin_action_describe` on what it receives. -/
def pluginReceives (data : Bytes) : Except PyError Json := do
  let msg ← Message.from_bytes py data
  if msg.type_ = .ActionDescribeEnd then
    -- a key that is missing raises
    let _ ← msg.data.getitem "inputs"
    let _ ← msg.data.getitem "parameters"
    msg.data.getitem "status"
  else return .str "kOfxStatusErr"

/-- `run_proxy_thread` of the host side on what it receives: the parameters of a request. -/
def hostReceives (data : Bytes) : Except PyError (Option Json) := do
  let msg ← Message.from_bytes py data
  if msg.type_ = .ActionDescribeStart then
    let parameters ← msg.data.getitem "parameters"
    return some parameters
  else return none

/-- Where `run_proxy_thread` of the host side is. -/
inductive HostPhase
  | select
  /-- At `sock.recv()`. -/
  | recv
  /-- In `_host_action_describe`. -/
  | describing (parameters : Json)
  | raised (e : PyError)

/-- The host side with the messages that wait at its socket. -/
structure HostInstance where
  phase : HostPhase := .select
  sub_socket : List Bytes := []

/-- A socket subscribed to the prefix of the global instance gets this message. -/
def subscribed (data : Bytes) : Bool :=
  match Message.get_instance_prefix py 0 with
  | .ok p => p.isPrefixOf data
  | .error _ => false

/-! ## The scripts -/

/-- Where `main` of `proxy_plugin.py` is. -/
inductive PluginMain
  /-- At `plugin_broker_thread.start()`. -/
  | thread_start
  | Popen
  /-- At `wait_for_status_ready`. -/
  | wait
  | waiting
  /-- The status is not OK, and `main` has returned. -/
  | gave_up
  /-- In `action_describe`, about to send its request. Nobody else takes its mutex. -/
  | sending
  /-- At `sub_socket.recv()`. -/
  | receiving
  | described (result : Except PyError Json)

/-- The thread of the broker has been started. -/
def PluginMain.started : PluginMain → Bool
  | .thread_start => false
  | _ => true

/-- Where `main` of `proxy_host.py` is. -/
inductive HostMain
  | absent
  /-- In `ProxyHost.__init__`. -/
  | init
  /-- About to send `RemoteHostStarted`. -/
  | sending
  | loop
  | raised (e : PyError)

/-- The thread of the instance has been started. -/
def HostMain.started : HostMain → Bool
  | .absent | .init => false
  | _ => true

structure Session where
  main : PluginMain := .thread_start
  /-- The handshake of the plugin's broker, with `main` as the one thread that waits for it. -/
  handshake : ProxyPluginBroker Unit := {}
  /-- What `poll` has ended with, once it has. -/
  polled : Option (Option Bytes) := none
  /-- The sockets of the plugin's broker, and its loop. -/
  plugin_broker : ProxyBroker := {}
  /-- What waits at the `sub_socket` of the plugin's instance. -/
  plugin_sub : List Bytes := []
  host_main : HostMain := .absent
  host_broker : ProxyBroker := {}
  host_instance : HostInstance := {}

/-- An event that does not come with one of the scripts' own. -/
def BrokerEvent.inner {τ : Type} : BrokerEvent τ → Bool
  | .receive | .call _ => false
  | _ => true

namespace Session

variable (s : Session)

/-- What the plugin's broker sends reaches the other broker or the plugin's instance. -/
def sendPlugin : Option Forwarded → Session
  | none => s
  | some (.pair_socket data) =>
    { s with host_broker := { s.host_broker with pair_socket := s.host_broker.pair_socket ++ [data] } }
  | some (.pub_socket data) => if subscribed py data then { s with plugin_sub := s.plugin_sub ++ [data] } else s

/-- What the host's broker sends reaches the other broker or the host's instance. -/
def sendHost : Option Forwarded → Session
  | none => s
  | some (.pair_socket data) =>
    { s with plugin_broker := { s.plugin_broker with pair_socket := s.plugin_broker.pair_socket ++ [data] } }
  | some (.pub_socket data) =>
    if subscribed py data then
      { s with host_instance := { s.host_instance with sub_socket := s.host_instance.sub_socket ++ [data] } }
    else s

end Session

/-- A message for the plugin's broker is there before `poll` has ended. -/
def Session.InTime (s : Session) : Prop :=
  match s.polled with
  | some first => first ≠ none
  | none => s.plugin_broker.pair_socket ≠ []

end MfxProxy.Mockup.ProxyLib
