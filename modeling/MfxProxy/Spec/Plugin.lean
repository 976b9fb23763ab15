import MfxProxy.Lib.Prog
import MfxProxy.Spec.PluginBroker

/-!
# `MfxProxyPlugin`: the exported table and `OfxSetHost`

The plugin object behind the exported functions: the table of `OfxPlugin` structs with
its compile-time dispatch, the vector of effects, and `OfxSetHost` with its early
returns. The outcome of each fallible step of a call is a field of `SetHostEnv`.

`MFX_PROXY_MAX_NUMBER_OF_PLUGINS` is the parameter `max`.
-/

namespace MfxProxy

open Lib

/-- The address of an object. -/
abbrev Addr := ℕ

/-! ## `OfxPlugin` and the exported table -/

/-- The functions of `remote_proxy_plugin.cpp` that an `OfxPlugin` points to. -/
inductive StaticFunction
  | StaticOfxPluginSetHost (N : ℕ)
  | StaticOfxPluginMainEntry (N : ℕ)
  deriving DecidableEq

structure OfxPlugin where
  pluginApi : CStr
  apiVersion : Int32
  pluginIdentifier : CStr
  pluginVersionMajor : UInt32
  pluginVersionMinor : UInt32
  setHost : StaticFunction
  mainEntry : StaticFunction
  deriving DecidableEq

/-- `kOfxMeshEffectPluginApi` and `kOfxMeshEffectPluginApiVersion` of the OFX headers. -/
structure PluginApi where
  kOfxMeshEffectPluginApi : CStr
  kOfxMeshEffectPluginApiVersion : Int32

/-- `make_plugin<X>` -/
def make_plugin (api : PluginApi) (X : ℕ) : OfxPlugin where
  pluginApi := api.kOfxMeshEffectPluginApi
  apiVersion := api.kOfxMeshEffectPluginApiVersion
  pluginIdentifier := c_str "MfxProxyPluginNameUnfilled"
  pluginVersionMajor := 1
  pluginVersionMinor := 0
  setHost := .StaticOfxPluginSetHost X
  mainEntry := .StaticOfxPluginMainEntry X

/-- `gOfxPlugins`, from `make_plugins_array`. -/
def gOfxPlugins (api : PluginApi) (max : ℕ) : Vector OfxPlugin max :=
  Vector.ofFn fun i => make_plugin api i

/-! ## `MfxProxyEffect` as an element of `m_effects` -/

/-- The members of `MfxProxyEffect`; a null `zmq::socket_t` is `none`. -/
structure MfxProxyEffect where
  m_effect_id : UInt32
  m_pub_socket : Option Addr := none
  m_sub_socket : Option Addr := none
  m_effect_lock : Bool := false
  m_broker : Addr
  m_identifier : String := ""
  /-- What `SetHost` of the SDK's base class has stored. -/
  host : Option Addr := none
  deriving DecidableEq

namespace MfxProxyEffect

/-- `MfxProxyEffect(int effect_id, MfxProxyPluginBroker *broker)` -/
def create (effect_id : Int32) (broker : Addr) : MfxProxyEffect where
  m_effect_id := effect_id.toUInt32
  m_broker := broker

/-- `MfxProxyEffect(MfxProxyEffect &&other)`: `m_identifier` and the base class are
default-initialized. -/
def moveConstruct (other : MfxProxyEffect) : MfxProxyEffect where
  m_effect_id := other.m_effect_id
  m_pub_socket := other.m_pub_socket
  m_sub_socket := other.m_sub_socket
  m_effect_lock := false
  m_broker := other.m_broker

def GetName (e : MfxProxyEffect) : CStr := c_str e.m_identifier

def SetName (e : MfxProxyEffect) (identifier : CStr) : MfxProxyEffect :=
  { e with m_identifier := identifier.str }

end MfxProxyEffect

/-- A capacity policy of `std::vector`: a full vector of `n` elements gets a larger
capacity. -/
structure Growth where
  next : ℕ → ℕ
  grows : ∀ n, n < next n

/-- `std::vector<MfxProxyEffect>` -/
structure EffectVector where
  data : List MfxProxyEffect := []
  capacity : ℕ := 0
  fits : data.length ≤ capacity := by decide

namespace EffectVector

/-- `emplace_back`: a full vector is relocated, element by element, through the move
constructor. -/
def emplace_back (g : Growth) (v : EffectVector) (e : MfxProxyEffect) : EffectVector :=
  if h : v.data.length = v.capacity then
    { data := v.data.map MfxProxyEffect.moveConstruct ++ [e]
      capacity := g.next v.data.length
      fits := by
        have := g.grows v.data.length
        simp only [List.length_append, List.length_map, List.length_singleton]; omega }
  else
    { data := v.data ++ [e]
      capacity := v.capacity
      fits := by
        have := v.fits
        simp only [List.length_append, List.length_singleton]; omega }

/-- `m_effects[i].SetName(identifier)` -/
def setName (v : EffectVector) (i : ℕ) (identifier : CStr) : Except Fault EffectVector :=
  if i < v.data.length then
    .ok { v with
      data := v.data.modify i (·.SetName identifier)
      fits := by simpa using v.fits }
  else .error .undefined

end EffectVector

/-! ## The broker, as `OfxSetHost` sees it -/

/-- What `OfxSetHost` changes of `m_broker`. -/
structure BrokerState where
  /-- `m_pub_socket` and `m_sub_socket` are bound to their inproc endpoints. -/
  pub_bound : Bool := false
  sub_bound : Bool := false
  m_pair_address : String := ""
  /-- `m_thread` is joinable. -/
  joinable : Bool := false
  /-- How often `start_thread` has been executed. -/
  starts : ℕ := 0
  /-- What the broker thread has published. -/
  m_plugin_definition : Option BrokerPluginBundleDefinition := none

/-- The outcome of every fallible step of one `OfxSetHost` call. -/
structure SetHostEnv where
  /-- Whether each bind succeeds on an endpoint that is not bound yet. -/
  bind_pub : Bool
  bind_sub : Bool
  bind_pair : Bool
  /-- The endpoint the PAIR socket gets. -/
  pair_endpoint : String
  /-- `OpenMfxRemoteProxy.ini` exists. -/
  config_exists : Bool
  /-- `plugin_path`, when the file can be read and has one. -/
  plugin_path : Option String
  /-- The proxy host binary exists. -/
  host_exists : Bool
  /-- The child process is launched. -/
  launch : Bool
  /-- What the broker thread has published when `get_plugin_definition` reads it. -/
  definition : Option BrokerPluginBundleDefinition

/-- One call of `OfxSetHost`. -/
structure SetHostCall where
  host : Option Addr
  bundle_dir : Option CStr
  env : SetHostEnv

/-! ## `MfxProxyPlugin` -/

/-- How the code is compiled and where the plugin's broker lies. -/
structure Build where
  ndebug : Bool
  growth : Growth
  /-- `&m_broker` -/
  broker : Addr

structure MfxProxyPlugin (max : ℕ) where
  m_broker : BrokerState := {}
  m_ofx_host : Option Addr := none
  m_bundle_directory : String := ""
  /-- `*m_ofx_plugins` -/
  ofx_plugins : Vector OfxPlugin max
  m_effects : EffectVector := {}
  /-- The indices stored to in `*m_ofx_plugins`. -/
  stores : List ℕ := []
  /-- The size of `m_effects` at each start of the defining loop. -/
  loop_starts : List ℕ := []

namespace MfxProxyPlugin

variable {max : ℕ}

/-- Code of `MfxProxyPlugin`. -/
abbrev Code (max : ℕ) := Prog (MfxProxyPlugin max) Fault

/-- Code of the broker member. -/
def onBroker (f : BrokerState → BrokerState) : Code max Unit :=
  Prog.modify fun s => { s with m_broker := f s.m_broker }

/-- `MfxProxyPluginBroker::setup_sockets`: binding an inproc endpoint that is already
bound raises `zmq::error_t`. -/
def setup_sockets (env : SetHostEnv) : Code max Unit := do
  let s ← Prog.get
  if s.m_broker.pub_bound || !env.bind_pub then Prog.throw .error_t
  else do
    onBroker ({ · with pub_bound := true })
    -- a later throw leaves the earlier sockets bound, so the next call fails at PUB
    if s.m_broker.sub_bound || !env.bind_sub then Prog.throw .error_t
    else do
      onBroker ({ · with sub_bound := true })
      if !env.bind_pair then Prog.throw .error_t
      else onBroker ({ · with m_pair_address := env.pair_endpoint })

/-- `MfxProxyBroker::start_thread`: assigning to a joinable `std::thread` terminates. -/
def start_thread : Code max Unit := do
  let s ← Prog.get
  onBroker fun b => { b with starts := b.starts + 1 }
  -- `std::terminate` is no exception: no `catch` sees it
  if s.m_broker.joinable then Prog.throw .terminate
  else onBroker ({ · with joinable := true })

/-- `MfxProxyPluginBroker::get_plugin_definition`: what is published stays published. -/
def get_plugin_definition (env : SetHostEnv) : Code max (Option BrokerPluginBundleDefinition) := do
  onBroker fun b => { b with m_plugin_definition := b.m_plugin_definition <|> env.definition }
  let s ← Prog.get
  return s.m_broker.m_plugin_definition

/-- The three stores to `(*m_ofx_plugins)[i]`; `std::array` does not check `i`. -/
def fill (i : ℕ) (plugin_def : BrokerPluginDefinition) : Code max Unit := do
  Prog.modify fun s => { s with stores := s.stores ++ [i] }
  -- the store is recorded before it is made, so that one out of bounds is seen too
  if h : i < max then
    Prog.modify fun s =>
      { s with
        ofx_plugins := s.ofx_plugins.set i { s.ofx_plugins[i] with
          pluginVersionMajor := plugin_def.version_major.toUInt32
          pluginVersionMinor := plugin_def.version_minor.toUInt32
          pluginIdentifier := c_str plugin_def.identifier } }
  else Prog.throw .undefined

/-- One round of the defining loop. -/
def defineEffect (B : Build) (plugin_definition : BrokerPluginBundleDefinition) (i : ℕ) : Code max Unit := do
  if i > max then
    return ()  -- exceeded the maximum, the effect is ignored
  else do
    let plugin_def ← Prog.lift (deref plugin_definition.plugins[i]?)
    Prog.lift (cassert B.ndebug (plugin_def.effect_id = Int32.ofNat i))
    fill i plugin_def
    -- create the instance
    Prog.modify fun s =>
      { s with m_effects := s.m_effects.emplace_back B.growth (.create (Int32.ofNat i) B.broker) }
    let s ← Prog.get
    let effects ← Prog.lift (s.m_effects.setName i (c_str plugin_def.identifier))
    Prog.modify fun s => { s with m_effects := effects }

/-- `number_of_plugins == plugins.size()`, an `int` compared with a `size_t`. -/
def sizeAgrees (d : BrokerPluginBundleDefinition) : Prop :=
  d.number_of_plugins.toInt % 2 ^ 64 = d.plugins.length

instance (d : BrokerPluginBundleDefinition) : Decidable (sizeAgrees d) :=
  inferInstanceAs (Decidable (_ = _))

/-- The defining loop. -/
def defineEffects (B : Build) (d : BrokerPluginBundleDefinition) : Code max Unit := do
  Prog.lift (cassert B.ndebug (sizeAgrees d))
  Prog.modify fun s => { s with loop_starts := s.loop_starts ++ [s.m_effects.data.length] }
  Prog.forEach (defineEffect B d) (List.range d.number_of_plugins.toInt.toNat)

/-- `OfxSetHost` -/
def OfxSetHost (B : Build) (host : Option Addr) (bundle_dir : Option CStr) (env : SetHostEnv) :
    Code max OfxStatus := do
  Prog.modify fun s => { s with m_ofx_host := host }
  match bundle_dir with
  | none => return kOfxStatFailed
  | some dir => do
    Prog.modify fun s => { s with m_bundle_directory := dir.str }
    match ← Prog.attempt (setup_sockets env) with
    -- `setup_sockets` throws `zmq::error_t` only, which is what the `catch` names
    | .error _ => return kOfxStatFailed
    | .ok () => do
      start_thread
      -- from here on the broker thread runs, and no return joins it
      if !env.config_exists then return kOfxStatFailed
      else if env.plugin_path = none then return kOfxStatFailed
      else if !env.host_exists then return kOfxStatFailed
      else if !env.launch then Prog.throw .process_error
      else do
        -- the child is detached: nothing tells whether it sends its definition
        match ← get_plugin_definition env with
        | none => return kOfxStatFailed
        | some d => do
          defineEffects B d
          return kOfxStatOK

/-- The plugin as its constructor leaves it, on the table as it is compiled. -/
def create (api : PluginApi) : MfxProxyPlugin max where
  ofx_plugins := gOfxPlugins api max

/-- Calls of `OfxSetHost`, one after another. A call that throws leaves the plugin as it
is; one that does not end by returning or throwing ends the process. -/
def OfxSetHosts (B : Build) : List SetHostCall → Code max Unit :=
  Prog.forEach fun c => do
    match ← Prog.attempt (OfxSetHost B c.host c.bundle_dir c.env) with
    | .ok _ => return ()
    | .error f => if f.fatal then Prog.throw f else return ()

/-- `OfxGetNumberOfPlugins` -/
def OfxGetNumberOfPlugins (s : MfxProxyPlugin max) : Int32 := Int32.ofNat s.m_effects.data.length

/-- The exported `OfxGetPlugin`: a null pointer is `none`. -/
def OfxGetPlugin (ndebug : Bool) (s : MfxProxyPlugin max) (nth : Int32) : Except Fault (Option OfxPlugin) :=
  if nth.toInt < max then
    match nth.toInt with
    | .ofNat k => (deref s.ofx_plugins[k]?).map some
    -- only the upper bound is checked before the table is indexed
    | .negSucc _ => .error .undefined
  else do
    cassert ndebug False
    return none

/-- `OfxPluginMainEntry`: the effect whose `MainEntry` is called. -/
def OfxPluginMainEntry (ndebug : Bool) (s : MfxProxyPlugin max) (effect_id : ℕ) : Except Fault MfxProxyEffect := do
  cassert ndebug (effect_id < s.m_effects.data.length)
  deref s.m_effects.data[effect_id]?

/-- A call through the `mainEntry` of an exported entry. -/
def callMainEntry (ndebug : Bool) (s : MfxProxyPlugin max) : StaticFunction → Except Fault MfxProxyEffect
  | .StaticOfxPluginMainEntry N => s.OfxPluginMainEntry ndebug N
  | .StaticOfxPluginSetHost _ => .error .undefined

end MfxProxyPlugin

end MfxProxy
