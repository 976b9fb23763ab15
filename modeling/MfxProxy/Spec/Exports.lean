import MfxProxy.Lib.Exec
import MfxProxy.Spec.Plugin

/-!
# The exported functions

`remote_proxy_plugin.cpp`: a library that makes its `MfxProxyPlugin` on the first call of
`OfxSetHost` or `OfxSetBundleDirectory`, and the functions that the host of the library calls,
the entries of the table among them. The host calls them in any order. What an effect's
`MainEntry` comes to is part of the call.

`Contract` is the same library as its host sees it: whether there is a plugin, whether its
first bind has succeeded, and how many effects there are. It says which calls end the process.
-/

namespace MfxProxy

open Lib

/-- What a call of an effect's `MainEntry` comes to: the sockets that its action leaves, and how
it ends. The actions assign nothing else of the effect. -/
structure MainEntryEnv where
  m_pub_socket : Option Addr
  m_sub_socket : Option Addr
  result : Except Fault OfxStatus

/-- The process does not go on. -/
def MainEntryEnv.ends (env : MainEntryEnv) : Bool :=
  match env.result with
  | .ok _ => false
  | .error f => f.fatal

/-- A call of an exported function, or through an entry of the table. -/
inductive ExportCall (max : ℕ)
  | OfxSetHost (host : Option Addr) (env : SetHostEnv)
  | OfxSetBundleDirectory (path : Option CStr) (env : SetHostEnv)
  | OfxGetNumberOfPlugins
  | OfxGetPlugin (nth : Int32)
  | StaticOfxPluginSetHost (N : Fin max) (host : Option Addr)
  | StaticOfxPluginMainEntry (N : Fin max) (env : MainEntryEnv)

inductive ExportReply
  | status (status : OfxStatus)
  | nothing
  | number (n : Int32)
  | plugin (plugin : Option OfxPlugin)

/-- The variables of `remote_proxy_plugin.cpp`. The plugin has the table, `gOfxPlugins`; without
a plugin the table is as it is compiled. -/
structure Exports (max : ℕ) where
  g_MfxProxyPlugin : Option (MfxProxyPlugin max) := none

namespace MfxProxyEffect

/-- `MainEntry`, with the action that it runs. -/
def MainEntry (env : MainEntryEnv) (e : MfxProxyEffect) : MfxProxyEffect :=
  { e with m_pub_socket := env.m_pub_socket, m_sub_socket := env.m_sub_socket }

/-- `SetHost`, which is the one of the SDK's base class. -/
def SetHost (host : Option Addr) (e : MfxProxyEffect) : MfxProxyEffect := { e with host := host }

end MfxProxyEffect

/-- `m_effects[i]` after one of its methods. -/
def EffectVector.modify (v : EffectVector) (i : ℕ) (method : MfxProxyEffect → MfxProxyEffect) : EffectVector where
  data := v.data.modify i method
  capacity := v.capacity
  fits := by simpa using v.fits

namespace MfxProxyPlugin

variable {max : ℕ}

/-- A method of `m_effects[effect_id]`, which ends in `result`, after the assertion on the id. -/
def onEffect {α : Type} (ndebug : Bool) (effect_id : ℕ) (method : MfxProxyEffect → MfxProxyEffect)
    (result : Except Fault α) : Code max α := do
  let s ← Prog.get
  let _ ← Prog.lift (s.OfxPluginMainEntry ndebug effect_id)
  Prog.modify fun s => { s with m_effects := s.m_effects.modify effect_id method }
  Prog.lift result

/-- `MfxProxyPlugin::OfxPluginSetHost` -/
def OfxPluginSetHost (ndebug : Bool) (effect_id : ℕ) (host : Option Addr) : Code max Unit :=
  onEffect ndebug effect_id (·.SetHost host) (.ok ())

/-- `MfxProxyPlugin::OfxPluginMainEntry`, with the effect's `MainEntry`. -/
def runMainEntry (ndebug : Bool) (effect_id : ℕ) (env : MainEntryEnv) : Code max OfxStatus :=
  onEffect ndebug effect_id (·.MainEntry env) env.result

end MfxProxyPlugin

namespace Exports

variable {max : ℕ} (B : Build) (api : PluginApi)

/-- Code of `remote_proxy_plugin.cpp`. -/
abbrev Code (max : ℕ) := Prog (Exports max) Fault

/-- The plugin, made if there is none. -/
def ensurePlugin : Code max Unit :=
  Prog.modify fun s => ⟨some (s.g_MfxProxyPlugin.getD (.create api))⟩

/-- `g_MfxProxyPlugin->`: a method of the plugin, which keeps what it did however it ends. -/
def onPlugin {α : Type} (x : MfxProxyPlugin.Code max α) : Code max α := do
  let s ← Prog.get
  let g_MfxProxyPlugin ← Prog.lift (deref s.g_MfxProxyPlugin)
  Prog.modify fun _ => ⟨some (x.run g_MfxProxyPlugin).1⟩
  Prog.lift (x.run g_MfxProxyPlugin).2

/-- A method that changes nothing. -/
def ofPlugin {α : Type} (x : MfxProxyPlugin max → Except Fault α) : Code max α := do
  let s ← Prog.get
  let g_MfxProxyPlugin ← Prog.lift (deref s.g_MfxProxyPlugin)
  Prog.lift (x g_MfxProxyPlugin)

/-- The exported `OfxSetHost` passes no bundle directory. -/
def OfxSetHost (host : Option Addr) (env : SetHostEnv) : Code max OfxStatus := do
  ensurePlugin api
  onPlugin (MfxProxyPlugin.OfxSetHost B host none env)

def OfxSetBundleDirectory (path : Option CStr) (env : SetHostEnv) : Code max Unit := do
  ensurePlugin api
  let status ← onPlugin (MfxProxyPlugin.OfxSetHost B none path env)
  Prog.lift (cassert B.ndebug (status = kOfxStatOK))

def OfxGetNumberOfPlugins : Code max Int32 := ofPlugin fun p => .ok p.OfxGetNumberOfPlugins

/-- It does not look at `g_MfxProxyPlugin`. -/
def OfxGetPlugin (nth : Int32) : Code max (Option OfxPlugin) := do
  let s ← Prog.get
  Prog.lift (MfxProxyPlugin.OfxGetPlugin B.ndebug (s.g_MfxProxyPlugin.getD (.create api)) nth)

def StaticOfxPluginSetHost (N : ℕ) (host : Option Addr) : Code max Unit :=
  onPlugin (MfxProxyPlugin.OfxPluginSetHost B.ndebug N host)

def StaticOfxPluginMainEntry (N : ℕ) (env : MainEntryEnv) : Code max OfxStatus :=
  onPlugin (MfxProxyPlugin.runMainEntry B.ndebug N env)

def call : ExportCall max → Code max ExportReply
  | .OfxSetHost host env => .status <$> OfxSetHost B api host env
  | .OfxSetBundleDirectory path env => (fun _ => .nothing) <$> OfxSetBundleDirectory B api path env
  | .OfxGetNumberOfPlugins => .number <$> OfxGetNumberOfPlugins
  | .OfxGetPlugin nth => .plugin <$> OfxGetPlugin B api nth
  | .StaticOfxPluginSetHost N host => (fun _ => .nothing) <$> StaticOfxPluginSetHost B N host
  | .StaticOfxPluginMainEntry N env => .status <$> StaticOfxPluginMainEntry B N env

/-- One call; none is made after a fault that ends the process. -/
def step (s : Exports max) (c : ExportCall max) : Option (Exports max) :=
  match ((call B api c).run s).2 with
  | .ok _ => some ((call B api c).run s).1
  | .error f => if f.fatal then none else some ((call B api c).run s).1

end Exports

/-! ## What the host of the library can rely on -/

/-- The library as its host sees it. -/
structure Contract where
  /-- There is a plugin. -/
  made : Bool := false
  /-- A bundle directory has been set so far that the first socket was bound. -/
  bound : Bool := false
  effects : ℕ := 0
  deriving DecidableEq

/-- The defining loop goes through: inside the table, inside the list, and with no failing
assertion. -/
def Defines (B : Build) (max : ℕ) (d : BrokerPluginBundleDefinition) : Prop :=
  (B.ndebug = true ∨ MfxProxyPlugin.sizeAgrees d) ∧ d.number_of_plugins.toInt ≤ max ∧
    d.number_of_plugins.toInt ≤ d.plugins.length ∧
      (B.ndebug = true ∨ ∀ i < d.number_of_plugins.toInt.toNat, ∀ p ∈ d.plugins[i]?, p.effect_id = Int32.ofNat i)

instance (B : Build) (max : ℕ) (d : BrokerPluginBundleDefinition) : Decidable (Defines B max d) :=
  inferInstanceAs (Decidable (_ ∧ _))

namespace Contract

variable {max : ℕ} (B : Build)

/-- A bundle directory that could not be set: the assertion of `OfxSetBundleDirectory` fails. -/
def failed (s : Contract) : Option Contract := if B.ndebug then some s else none

/-- What a bundle directory comes to once the first socket is bound. -/
def setUp (max : ℕ) (env : SetHostEnv) (s : Contract) : Option Contract :=
  if !env.bind_sub || !env.bind_pair || !env.config_exists || env.plugin_path = none || !env.host_exists then
    s.failed B
  -- the exception passes to the host
  else if !env.launch then some s
  else
    match env.definition with
    | none => s.failed B
    | some d => if Defines B max d then some { s with effects := d.number_of_plugins.toInt.toNat } else none

def step (s : Contract) : ExportCall max → Option Contract
  | .OfxSetHost _ _ => some { s with made := true }
  | .OfxSetBundleDirectory path env =>
    if path = none || s.bound || !env.bind_pub then failed B { s with made := true }
    else setUp B max env { s with made := true, bound := true }
  | .OfxGetNumberOfPlugins => if s.made then some s else none
  | .OfxGetPlugin nth => if 0 ≤ nth.toInt ∧ (nth.toInt < max ∨ B.ndebug = true) then some s else none
  | .StaticOfxPluginSetHost N _ => if (N : ℕ) < s.effects then some s else none
  | .StaticOfxPluginMainEntry N env =>
    -- a fault of the effect's action ends the process too
    if (N : ℕ) < s.effects ∧ env.ends = false then some s else none

end Contract

/-- What the host sees of the library. -/
def Exports.contract {max : ℕ} (s : Exports max) : Contract :=
  match s.g_MfxProxyPlugin with
  | none => {}
  | some p => { made := true, bound := p.m_broker.pub_bound, effects := p.m_effects.data.length }

end MfxProxy
