import MfxProxy.Lib.Exec
import MfxProxy.Spec.Definition
import MfxProxy.Spec.HostBroker
import MfxProxy.Spec.Plugin

/-!
# Both processes start up

`OfxSetHost` launches the host process and waits for its catalogue: here that wait is the one of
`Handshake`, and the host process is there, from its `main` to the first message of its broker.
The thread that calls `OfxSetHost`, the plugin broker's thread and the host process interleave
freely. `SetHostEnv.definition`, which is the outcome of the wait, is not used.

Up to the launch nothing arrives for the broker's thread, and after the wait it changes nothing
that the call reads, so each of these parts of the call is one event. A socket call of a
broker's thread can throw at any time; nothing catches it, so it terminates the process.
-/

namespace MfxProxy

open Lib

/-! ## The host process -/

/-- The outcomes of the steps of the host process. -/
structure HostEnv where
  bind_pub : Bool
  bind_sub : Bool
  connect : Bool
  /-- `registry().getLibrary(plugin_path)`: a library, a null pointer, or what it throws. -/
  getLibrary : String → Except Fault (Option EffectLibrary)

structure MfxProxyHost where
  /-- `m_pair_address` of its broker. -/
  m_pair_address : String := ""
  m_ofx_library : Option EffectLibrary := none

namespace MfxProxyHost

variable (H : HostEnv)

/-- `MfxProxyHostBroker::setup_sockets` -/
def setup_sockets (pair_address : String) : Prog MfxProxyHost Fault Unit := do
  Prog.modify fun s => { s with m_pair_address := pair_address }
  if !H.bind_pub then Prog.throw .error_t
  else if !H.bind_sub then Prog.throw .error_t
  else if !H.connect then Prog.throw .error_t
  else return ()

def set_remote_plugin_pair_address (pair_address : String) : Prog MfxProxyHost Fault Unit :=
  setup_sockets H pair_address

def set_plugin (plugin_path : String) : Prog MfxProxyHost Fault Unit := do
  let library ← Prog.lift (H.getLibrary plugin_path)
  Prog.modify fun s => { s with m_ofx_library := library }

def library (ndebug : Bool) (s : MfxProxyHost) : Except Fault EffectLibrary := do
  cassert ndebug (s.m_ofx_library ≠ none)
  deref s.m_ofx_library

end MfxProxyHost

/-- Where the host process is. -/
inductive HostPhase
  | absent
  /-- Launched, with these arguments. -/
  | launched (argv : List String)
  /-- In `run_main_loop`, its broker's thread about to send. -/
  | running (host : MfxProxyHost)
  /-- Its broker's thread is in its loop. -/
  | looping (host : MfxProxyHost)
  | exited (status : Int32)
  | ended (f : Fault)

/-- `main` of `remote_proxy_host.cpp`, up to `join_thread`. -/
def RemoteProxyHost.main (H : HostEnv) (argv : List String) : HostPhase :=
  match argv with
  | [_, plugin_path, pair_address] =>
    let start : Prog MfxProxyHost Fault Unit := do
      MfxProxyHost.set_remote_plugin_pair_address H pair_address
      MfxProxyHost.set_plugin H plugin_path
    match (start.run {}).2 with
    | .ok () => .running (start.run {}).1
    -- every exception here is a `std::exception`
    | .error f => if f.fatal then .ended f else .exited 1
  | _ => .exited 1

/-! ## `OfxSetHost`, before and after its wait -/

namespace MfxProxyPlugin

variable {max : ℕ}

/-- `proxy_host_path` -/
def proxy_host_path (bundle_dir : CStr) : String := bundle_dir.str ++ "/OpenMfxRemoteProxy_Host"

/-- `OfxSetHost` up to the launch: an early return, or the arguments of the child process. -/
def launch (host : Option Addr) (bundle_dir : Option CStr) (env : SetHostEnv) :
    Code max (OfxStatus ⊕ List String) := do
  Prog.modify fun s => { s with m_ofx_host := host }
  match bundle_dir with
  | none => return .inl kOfxStatFailed
  | some dir => do
    Prog.modify fun s => { s with m_bundle_directory := dir.str }
    match ← Prog.attempt (setup_sockets env) with
    | .error _ => return .inl kOfxStatFailed
    | .ok () => do
      start_thread
      if !env.config_exists then return .inl kOfxStatFailed
      else
        match env.plugin_path with
        | none => return .inl kOfxStatFailed
        | some plugin_path =>
          if !env.host_exists then return .inl kOfxStatFailed
          else if !env.launch then Prog.throw .process_error
          else do
            let s ← Prog.get
            return .inr [proxy_host_path dir, plugin_path, s.m_broker.m_pair_address]

/-- `OfxSetHost` from the wait on, with what the wait has returned. -/
def setupEffects (B : Build) (env : SetHostEnv) : Code max OfxStatus := do
  match ← get_plugin_definition env with
  | none => return kOfxStatFailed
  | some d => do
    defineEffects B d
    return kOfxStatOK

end MfxProxyPlugin

/-! ## All of them together -/

/-- Where the call of `OfxSetHost` is. -/
inductive StartupCall
  | outside
  /-- In `get_plugin_definition`. -/
  | waiting
  | ended (result : Except Fault OfxStatus)

/-- Where the first block of `MfxProxyPluginBroker::broker_thread_main` is. -/
inductive FirstBlock
  /-- At the receive. -/
  | receiving
  /-- The definition is built; from here on `Handshake.publisher` says where. -/
  | built (plugin_definition : BrokerPluginBundleDefinition)

structure Startup (max : ℕ) where
  plugin : MfxProxyPlugin max
  call : StartupCall := .outside
  broker : FirstBlock := .receiving
  handshake : Handshake := {}
  /-- What waits at the PAIR socket of the plugin's broker. -/
  pair_socket : List Bytes := []
  host : HostPhase := .absent
  /-- What has ended the plugin process. -/
  fault : Option Fault := none

inductive StartupEvent
  | launch
  /-- `main` of the host process. -/
  | main
  | sendFirst
  | receiveFirst
  /-- The broker's thread publishes the definition. -/
  | publish (ev : HandshakeEvent)
  /-- `get_plugin_definition` -/
  | wait (ev : HandshakeEvent)
  | setupEffects
  /-- A socket call of the process's broker thread throws. -/
  | throws (p : Process)

/-- The event is one of the block that publishes the definition. -/
def HandshakeEvent.isPublisher : HandshakeEvent → Bool
  | .publisherLock | .swap | .notify_all | .publisherUnlock => true
  | _ => false

namespace Startup

variable {max : ℕ} (s : Startup max)

/-- The call is over; a fault that is no exception ends the process. -/
def finish (plugin : MfxProxyPlugin max) (result : Except Fault OfxStatus) : Startup max :=
  { s with
    plugin := plugin
    call := .ended result
    fault :=
      match result with
      | .ok _ => none
      | .error f => if f.fatal then some f else none }

end Startup

/-- One event of the call of `OfxSetHost(host, bundle_dir)`, the broker's thread or the host
process. -/
def startupStep {max : ℕ} (P : Platform) (B : Build) (H : HostEnv) (host : Option Addr) (bundle_dir : Option CStr)
    (env : SetHostEnv) (s : Startup max) : StartupEvent → Option (Startup max)
  | .launch =>
    match s.call with
    | .outside =>
      match (MfxProxyPlugin.launch host bundle_dir env).run s.plugin with
      | (plugin, .ok (.inr argv)) => some { s with plugin := plugin, call := .waiting, host := .launched argv }
      | (plugin, .ok (.inl status)) => some (s.finish plugin (.ok status))
      | (plugin, .error f) => some (s.finish plugin (.error f))
    | _ => none
  | .main =>
    match s.host with
    | .launched argv => some { s with host := RemoteProxyHost.main H argv }
    | _ => none
  | .sendFirst =>
    match s.host with
    | .running h =>
      match h.library B.ndebug with
      | .ok library =>
        -- the socket is connected to the address that the process was given
        let arrived := if h.m_pair_address = s.plugin.m_broker.m_pair_address then [library.firstMessage P] else []
        some { s with host := .looping h, pair_socket := s.pair_socket ++ arrived }
      | .error f => some { s with host := .ended f }
    | _ => none
  | .receiveFirst =>
    match s.broker, s.pair_socket with
    | .receiving, m :: ms =>
      if s.fault = none then
        match receiveDefinition P m with
        | .ok d => some { s with broker := .built d, pair_socket := ms }
        | .error f => some { s with pair_socket := ms, fault := some f }
      else none
    | _, _ => none
  | .publish ev =>
    match s.broker with
    | .built d =>
      if ev.isPublisher ∧ s.fault = none then
        (handshakeStep d s.handshake ev).map fun h => { s with handshake := h }
      else none
    | .receiving => none
  | .wait ev =>
    match s.call with
    | .waiting =>
      if ¬ ev.isPublisher ∧ s.fault = none then
        -- these events publish nothing
        (handshakeStep ⟨0, []⟩ s.handshake ev).map fun h => { s with handshake := h }
      else none
    | _ => none
  | .setupEffects =>
    match s.call, s.handshake.caller with
    | .waiting, .returned result _ =>
      if s.fault = none then
        let x := (MfxProxyPlugin.setupEffects B { env with definition := result }).run s.plugin
        some (s.finish x.1 x.2)
      else none
    | _, _ => none
  | .throws .plugin =>
    match s.call with
    | .outside => none
    | _ =>
      -- the call may have ended before it started the thread
      if s.plugin.m_broker.joinable ∧ s.fault = none then some { s with fault := some .terminate } else none
  | .throws .host =>
    match s.host with
    | .running _ | .looping _ => some { s with host := .ended .terminate }
    | _ => none

/-- The library that the host process loads, started as `env` says. -/
def HostEnv.Loads (H : HostEnv) (env : SetHostEnv) (library : EffectLibrary) : Prop :=
  (H.bind_pub = true ∧ H.bind_sub = true ∧ H.connect = true) ∧
    ∃ plugin_path, env.plugin_path = some plugin_path ∧ H.getLibrary plugin_path = .ok (some library)

/-- The definition that the plugin's broker can get from it. -/
def HostEnv.Offers (H : HostEnv) (P : Platform) (env : SetHostEnv) (d : BrokerPluginBundleDefinition) : Prop :=
  ∃ library, H.Loads env library ∧ receiveDefinition P (library.firstMessage P) = .ok d

end MfxProxy
