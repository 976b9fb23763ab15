import MfxProxy.Spec.Effect
import MfxProxy.Spec.HostBroker
import MfxProxy.Spec.PluginBroker
import Mathlib.Logic.Function.Basic

/-!
# The plugin process and the host process

`System` puts the effects of the plugin process, its broker thread and the host process
together. A request goes from an effect's PUB socket to the plugin broker's SUB socket,
from there over PAIR to the host; what the host puts on PAIR goes from the plugin broker's
PUB socket to every effect that has subscribed to it.

The brokers of both processes run the same loop, which is modelled once (`BrokerThread`):
each polls a PAIR and a SUB socket. The host's loop ends in `TODO handle the message`. A
host that `serves` is one that does: it answers the requests of each effect in their
order.

ZMQ is taken as lossless FIFO queues. `PluginSide` has the subscriptions of the effects in
place from the start; here each effect opens and closes its sockets.

`wait_all`, `recv` and `send` can throw `zmq::error_t`. An effect catches it, but nothing
does in a broker's thread: there it is `std::terminate` of the process, which does nothing
from then on (`terminated`). The other faults end their process too, so a run of the
program is one in which no event of that process follows.
-/

namespace MfxProxy

open Lib

/-! ## A broker's loop -/

/-- A broker thread with the two sockets that it polls. -/
structure BrokerThread where
  /-- At `handshake` the plugin broker is about to receive its first message, and the
  host broker about to send it. -/
  phase : BrokerPhase := .handshake
  /-- What waits at the socket, oldest first. -/
  sub_socket : List Bytes := []
  pair_socket : List Bytes := []
  deriving DecidableEq

/-- One step of a broker's loop. -/
inductive LoopEvent
  /-- `wait_all` reports these events; none when it times out. -/
  | wait_all (events : List PollerEvent)
  /-- One round of the `for` loop over the events. -/
  | handle
  deriving DecidableEq

namespace BrokerThread

variable (t : BrokerThread)

/-- A socket is ready for `pollin`. -/
def ready : BrokerSocket → Bool
  | .pair => t.pair_socket ≠ []
  | .sub => t.sub_socket ≠ []
  | .pub => false

/-- `recv` on one of the sockets; `none` while it blocks. -/
def recv : BrokerSocket → Option (Bytes × BrokerThread)
  | .pair =>
    match t.pair_socket with
    | m :: ms => some (m, { t with pair_socket := ms })
    | [] => none
  | .sub =>
    match t.sub_socket with
    | m :: ms => some (m, { t with sub_socket := ms })
    | [] => none
  | .pub => none

/-- `poller.wait_all(events, 60000ms)` and the test of its result. -/
def wait_all (events : List PollerEvent) : Option BrokerThread :=
  if t.phase = .polling ∧ events.Nodup ∧ ∀ ev ∈ events, ev ∈ pollerEntries ∧ t.ready ev.socket then
    some (if events = [] then t else { t with phase := .handling events })
  else none

/-- The `recv` of a round: the socket of the event, the message, and the thread that goes
on with the events left. -/
def nextMessage : Option (BrokerSocket × Bytes × BrokerThread) :=
  match t.phase with
  | .handling (ev :: events) =>
    (t.recv ev.socket).map fun (m, t) =>
      (ev.user_data, m, { t with phase := if events = [] then .polling else .handling events })
  | _ => none

end BrokerThread

/-! ## The two processes -/

/-- What the host process was started with. -/
structure HostProcess where
  /-- What `registry().getLibrary(plugin_path)` has returned. -/
  m_ofx_library : Option EffectLibrary
  /-- Whether received messages are handled; in this repository they are not. -/
  serves : Bool

/-- Both processes, with the threads `τ` that call the effects. -/
structure System (τ : Type) where
  /-- `unanswered` of an effect is here what its PUB socket has sent and the broker's SUB
  socket has not got yet. -/
  effects : UInt32 → EffectSession τ := fun _ => {}
  plugin : BrokerThread := {}
  m_plugin_definition : Option BrokerPluginBundleDefinition := none
  host : BrokerThread := {}
  /-- What the host's loop has taken and no reply was sent for, oldest first. -/
  unanswered : List Bytes := []
  /-- The processes that `std::terminate` has ended. -/
  terminated : List Process := []

/-- What can happen next. -/
inductive SystemEvent (τ : Type)
  /-- An event of an effect and its callers. -/
  | effect (e : UInt32) (ev : EffectEvent τ)
  /-- The oldest message of an effect arrives at the plugin broker's SUB socket. -/
  | arrive (e : UInt32)
  /-- The plugin broker receives its first message and publishes the definition. -/
  | receiveFirst
  | plugin (ev : LoopEvent)
  /-- The host broker sends its first message. -/
  | sendFirst
  | host (ev : LoopEvent)
  /-- The host answers the oldest request of an effect. -/
  | reply (e : UInt32) (T : MessageType) (message : T.Table) (message_id : UInt32)
  /-- A socket call of the process's broker thread throws. -/
  | throws (p : Process)

/-- The process in which an event happens. -/
def SystemEvent.process {τ : Type} : SystemEvent τ → Process
  | .effect .. | .arrive _ | .receiveFirst | .plugin _ => .plugin
  | .sendFirst | .host _ | .reply .. => .host
  | .throws p => p

/-- The message that an effect's conversation gets from its environment. -/
def EffectEvent.isAnswer {τ : Type} : EffectEvent τ → Bool
  | .answer .. => true
  | _ => false

namespace System

variable {τ : Type} (P : Platform) (S : Suites) (ndebug : Bool) (H : HostProcess) (s : System τ)

/-- `OfxSetHost` has made an effect with this id from the definition it got. -/
def defines (e : UInt32) : Bool :=
  match s.m_plugin_definition with
  | some d => e.toNat < d.plugins.length
  | none => false

/-- `MfxProxyBroker::send_message_pub` of the plugin broker: the message goes to every open
socket whose subscription is a leading part of it. -/
def send_message_pub (message : Bytes) : System τ :=
  { s with
    effects := fun e =>
      if (P.message_prefix e).isPrefixOf message then
        { s.effects e with effect := (s.effects e).effect.deliver message }
      else s.effects e }

/-- `MfxProxyBroker::send_message_pair` of the plugin broker. -/
def send_message_pair (message : Bytes) : System τ :=
  { s with host := { s.host with pair_socket := s.host.pair_socket ++ [message] } }

/-- `MfxProxyBroker::send_message_pair` of the host broker. -/
def host_send_message_pair (message : Bytes) : System τ :=
  { s with plugin := { s.plugin with pair_socket := s.plugin.pair_socket ++ [message] } }

/-- The `switch` of the plugin broker's loop. -/
def forward (socket_enum : BrokerSocket) (message : Bytes) : System τ :=
  match socket_enum with
  | .pair => s.send_message_pub P message
  | .sub => s.send_message_pair message
  | .pub => if ndebug then s else { s with plugin := { s.plugin with phase := .ended .assert } }

/-- The oldest message of an effect leaves its PUB socket. -/
def takeRequest (e : UInt32) : Option (Bytes × System τ) :=
  match (s.effects e).effect.unanswered with
  | m :: ms =>
    some (m, { s with
      effects := Function.update s.effects e
        { s.effects e with effect := { (s.effects e).effect with unanswered := ms } } })
  | [] => none

/-- `MfxProxyHostBroker::broker_thread_main` up to its loop. -/
def sendFirst : System τ :=
  match H.m_ofx_library with
  | some library =>
    ({ s with host := { s.host with phase := .polling } } : System τ).host_send_message_pair (library.firstMessage P)
  -- `assert(m_ofx_library)`, and then a null pointer
  | none => { s with host := { s.host with phase := .ended (if ndebug then .undefined else .assert) } }

/-- The broker's thread of a process. -/
def broker : Process → BrokerThread
  | .plugin => s.plugin
  | .host => s.host

/-- What an event does in a process that goes on. -/
def advance : SystemEvent τ → Option (System τ)
  | .effect e ev =>
    -- what answers an effect's requests here is the rest of the system
    if s.defines e ∧ ¬ ev.isAnswer then
      (effectStep P S ndebug e (s.effects e) ev).map fun x => { s with effects := Function.update s.effects e x }
    else none
  | .arrive e =>
    (s.takeRequest e).map fun (m, s) =>
      { s with plugin := { s.plugin with sub_socket := s.plugin.sub_socket ++ [m] } }
  | .receiveFirst =>
    if s.plugin.phase = .handshake then
      (s.plugin.recv .pair).map fun (m, t) =>
        match receiveDefinition P m with
        | .ok d => { s with plugin := { t with phase := .polling }, m_plugin_definition := some d }
        | .error f => { s with plugin := { t with phase := .ended f } }
    else none
  | .plugin (.wait_all events) => (s.plugin.wait_all events).map fun t => { s with plugin := t }
  | .plugin .handle =>
    s.plugin.nextMessage.map fun (socket_enum, m, t) =>
      -- the log line reads the message first
      match P.effect_id m with
      | .ok _ => ({ s with plugin := t } : System τ).forward P ndebug socket_enum m
      | .error f => { s with plugin := { t with phase := .ended f } }
  | .sendFirst => if s.host.phase = .handshake then some (s.sendFirst P ndebug H) else none
  | .host (.wait_all events) => (s.host.wait_all events).map fun t => { s with host := t }
  | .host .handle =>
    s.host.nextMessage.map fun (_, m, t) =>
      match P.effect_id m with
      | .ok _ => { s with host := t, unanswered := s.unanswered ++ [m] }
      | .error f => { s with host := { t with phase := .ended f } }
  | .reply e T message message_id =>
    match s.unanswered.find? (addressed P e) with
    | some request =>
      if H.serves ∧ (P.message_type request).reply? = some T then
        -- the reply carries the ids of its request
        some (({ s with unanswered := s.unanswered.eraseP (addressed P e) } : System τ).host_send_message_pair
          (P.make_message T message e (P.message_thread_id request) message_id))
      else none
    | none => none
  | .throws p =>
    match (s.broker p).phase with
    | .ended _ => none
    | _ => some { s with terminated := p :: s.terminated }

end System

/-- One event. -/
def systemStep {τ : Type} (P : Platform) (S : Suites) (ndebug : Bool) (H : HostProcess) (s : System τ)
    (ev : SystemEvent τ) : Option (System τ) :=
  if ev.process ∈ s.terminated then none else s.advance P S ndebug H ev

end MfxProxy
