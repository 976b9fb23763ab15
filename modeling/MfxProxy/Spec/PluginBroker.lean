import MfxProxy.Lib.Exec
import MfxProxy.Lib.Fifo
import MfxProxy.Spec.Message
import Mathlib.Data.Finset.Insert

/-!
# The plugin broker and its links

`MfxProxyPluginBroker::broker_thread_main`: the handshake receive, then the main
loop, which polls the PAIR and the SUB socket and forwards PAIR to PUB and SUB to
PAIR. `PluginSide` is the broker thread with everything it is linked to: the PUB
socket of every loaded effect (connected to the broker's SUB), the SUB socket of every
loaded effect (subscribed to `message_prefix` on the broker's PUB) and the host's
PAIR socket.

ZMQ is taken as lossless FIFO queues with prefix subscriptions in place. What the
broker writes to the debug log is left out.
-/

namespace MfxProxy

open Lib

/-- `MfxProxyBroker::BrokerSocket` -/
inductive BrokerSocket
  | pub
  | sub
  | pair
  deriving DecidableEq

/-! ## The definition received in the handshake -/

structure BrokerPluginDefinition where
  effect_id : Int32
  identifier : String
  version_major : Int32
  version_minor : Int32
  deriving DecidableEq

/-- This mirrors the `RemoteHostStarted` message in flatbuffers. -/
structure BrokerPluginBundleDefinition where
  number_of_plugins : Int32
  plugins : List BrokerPluginDefinition
  deriving DecidableEq

/-- One round of the loop over `*data->plugins()`. -/
def readPlugin (p : FbOfxPlugin) : Except Fault BrokerPluginDefinition := do
  let identifier ← deref p.identifier
  return {
    effect_id := p.effect_id
    identifier := identifier
    version_major := p.version_major
    version_minor := p.version_minor }

/-- The definition that `broker_thread_main` builds from the received table. -/
def readDefinition (data : RemoteHostStarted) : Except Fault BrokerPluginBundleDefinition := do
  let plugins ← deref data.plugins
  return {
    number_of_plugins := data.number_of_plugins
    plugins := ← plugins.mapM readPlugin }

/-- The handshake block of `broker_thread_main` on the message it receives. -/
def receiveDefinition (P : Platform) (message : Bytes) : Except Fault BrokerPluginBundleDefinition := do
  let data ← P.message_as .RemoteHostStarted message
  readDefinition data

/-! ## The broker thread and its links -/

/-- `zmq::poller_event<BrokerSocket>` -/
structure PollerEvent where
  socket : BrokerSocket
  user_data : BrokerSocket
  deriving DecidableEq

/-- What `broker_thread_main` adds to its poller. -/
def pollerEntries : List PollerEvent := [⟨.pair, .pair⟩, ⟨.sub, .sub⟩]

/-- Where the broker thread is. -/
inductive BrokerPhase
  /-- At the receive of `RemoteHostStarted`. -/
  | handshake
  /-- At `wait_all`. -/
  | polling
  /-- In the `for` loop, with these events still to go. -/
  | handling (events : List PollerEvent)
  /-- The thread has ended. -/
  | ended (f : Fault)
  deriving DecidableEq

/-- The plugin process, from the effects' sockets to the PAIR link. -/
structure PluginSide where
  phase : BrokerPhase := .handshake
  m_plugin_definition : Option BrokerPluginBundleDefinition := none
  /-- What the host put on PAIR; taken by the broker. -/
  pairIn : Fifo Bytes := {}
  /-- What the broker sent on PAIR. -/
  pairOut : List Bytes := []
  /-- What arrived at the broker's SUB socket; taken by the broker. -/
  subIn : Fifo Bytes := {}
  /-- What an effect sent on its PUB socket; taken when it arrives at the broker. -/
  effectOut : UInt32 → Fifo Bytes := fun _ => {}
  /-- What was delivered to an effect's subscription; taken by `receive_message`. -/
  effectIn : UInt32 → Fifo Bytes := fun _ => {}

namespace PluginSide

/-- `MfxProxyBroker::send_message_pub`: ZMQ delivers to every loaded effect whose
subscription is a leading part of the message. -/
def send_message_pub (P : Platform) (effects : Finset UInt32) (s : PluginSide) (message : Bytes) :
    PluginSide :=
  { s with
    effectIn := fun e =>
      if e ∈ effects ∧ (P.message_prefix e).isPrefixOf message = true then (s.effectIn e).put message
      else s.effectIn e }

/-- `MfxProxyBroker::send_message_pair` -/
def send_message_pair (s : PluginSide) (message : Bytes) : PluginSide :=
  { s with pairOut := s.pairOut ++ [message] }

/-- A socket is ready for `pollin`. -/
def ready (s : PluginSide) : BrokerSocket → Bool
  | .pair => s.pairIn.waiting ≠ []
  | .sub => s.subIn.waiting ≠ []
  | .pub => false

/-- `recv` on one of the broker's sockets; `none` while it blocks. -/
def recv (s : PluginSide) : BrokerSocket → Option (Bytes × PluginSide)
  | .pair => s.pairIn.take.map fun (m, q) => (m, { s with pairIn := q })
  | .sub => s.subIn.take.map fun (m, q) => (m, { s with subIn := q })
  | .pub => none

/-- The `switch` of the main loop. -/
def forward (P : Platform) (effects : Finset UInt32) (s : PluginSide) (socket_enum : BrokerSocket)
    (message : Bytes) : PluginSide :=
  match socket_enum with
  | .pair => s.send_message_pub P effects message
  | .sub => s.send_message_pair message
  | .pub => { s with phase := .ended .assert }

end PluginSide

/-- What can happen next on the plugin side. -/
inductive PluginEvent
  /-- An effect sends a message made with its own id. -/
  | effectSend (e : UInt32) (T : MessageType) (message : T.Table) (message_thread_id message_id : UInt32)
  /-- The oldest message of an effect arrives at the broker's SUB socket. -/
  | arrive (e : UInt32)
  /-- The host puts a message on PAIR. -/
  | hostSend (T : MessageType) (message : T.Table) (effect_id message_thread_id message_id : UInt32)
  /-- The broker receives its first message and publishes the definition. -/
  | receiveFirst
  /-- `wait_all` reports these events; none when it times out. -/
  | wait_all (events : List PollerEvent)
  /-- One round of the `for` loop over the events. -/
  | handle
  /-- `receive_message` of an effect. -/
  | effectRecv (e : UInt32)

/-- The host's first message is a complete `RemoteHostStarted`, and its only one. -/
def hostMay (s : PluginSide) (T : MessageType) (message : T.Table) : Bool :=
  match T, message with
  | .RemoteHostStarted, data => s.pairIn.sent = [] && (readDefinition data).isOk
  | _, _ => s.pairIn.sent ≠ []

/-- One event on the plugin side, with `effects` the loaded effects. -/
def pluginStep (P : Platform) (effects : Finset UInt32) (s : PluginSide) :
    PluginEvent → Option PluginSide
  | .effectSend e T message i j =>
    if e ∈ effects then
      some { s with effectOut := Function.update s.effectOut e ((s.effectOut e).put (P.make_message T message e i j)) }
    else none
  | .arrive e =>
    if e ∈ effects then
      (s.effectOut e).take.map fun (m, q) =>
        { s with effectOut := Function.update s.effectOut e q, subIn := s.subIn.put m }
    else none
  | .hostSend T message e i j =>
    if hostMay s T message then
      some { s with pairIn := s.pairIn.put (P.make_message T message e i j) }
    else none
  | .receiveFirst =>
    if s.phase = .handshake then
      (s.recv .pair).map fun (m, s) =>
        match receiveDefinition P m with
        | .ok d => { s with m_plugin_definition := some d, phase := .polling }
        -- a table with an absent field is read through a null pointer
        | .error f => { s with phase := .ended f }
    else none
  | .wait_all events =>
    if s.phase = .polling ∧ events.Nodup ∧ ∀ ev ∈ events, ev ∈ pollerEntries ∧ s.ready ev.socket then
      -- no event is a timeout, after which the loop goes round again
      some (if events = [] then s else { s with phase := .handling events })
    else none
  | .handle =>
    match s.phase with
    | .handling (ev :: events) =>
      (s.recv ev.socket).map fun (m, s) =>
        -- the round is counted off before the `switch`, whose `default` ends the thread
        ({ s with phase := if events = [] then .polling else .handling events } : PluginSide).forward
          P effects ev.user_data m
    | _ => none
  | .effectRecv e =>
    if e ∈ effects then
      (s.effectIn e).take.map fun (_, q) => { s with effectIn := Function.update s.effectIn e q }
    else none

end MfxProxy
