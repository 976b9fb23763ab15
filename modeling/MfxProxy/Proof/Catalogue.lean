import MfxProxy.Proof.Table
import MfxProxy.Spec.HostBroker

/-!
# The catalogue of the host reaches the exported table

The effect library of the host process goes through three representations on its way
to the host application: the `RemoteHostStarted` message, the definition the plugin's
broker publishes, and the table of `OfxPlugin` structs.

* `receiveDefinition_firstMessage`: what the broker makes of the message.
* `consistent_definition`: neither assertion of the defining loop can fail on it.
* `catalogue_round_trip`: the table and the effects after the loop.
-/

namespace MfxProxy

open Lib

/-! ## The broker's copy of the catalogue -/

/-- The plugin definition that effect `i` of the library becomes. -/
def definedPlugin (i : ℕ) (e : LibraryEffect) : BrokerPluginDefinition where
  effect_id := Int32.ofNat i
  identifier := (e.effectIdentifier.map CStr.str).getD ""
  version_major := e.effectVersionMajor.toInt32
  version_minor := e.effectVersionMinor.toInt32

def EffectLibrary.definition (library : EffectLibrary) : BrokerPluginBundleDefinition where
  number_of_plugins := Int32.ofNat library.effects.length
  plugins := library.effects.mapIdx definedPlugin

variable {P : Platform} {library : EffectLibrary}

theorem readPlugin_writePlugin {i : ℕ} {e : LibraryEffect} (h : e.effectIdentifier ≠ none) :
    readPlugin (writePlugin i e) = .ok (definedPlugin i e) := by
  obtain ⟨identifier, hid⟩ := Option.ne_none_iff_exists'.1 h
  simp [readPlugin, writePlugin, definedPlugin, hid, deref, bind, Except.bind, pure, Except.pure]

/-- Round by round, the broker's loop undoes the host's. -/
theorem mapM_readPlugin {effects : List LibraryEffect} (h : ∀ e ∈ effects, e.effectIdentifier ≠ none) :
    ∀ (f : ℕ → ℕ), (effects.mapIdx fun i => writePlugin (f i)).mapM readPlugin =
      .ok (effects.mapIdx fun i => definedPlugin (f i)) := by
  induction effects with
  | nil => intro f; rfl
  | cons e effects ih =>
    intro f
    have hrest := ih (fun e he => h e (List.mem_cons_of_mem _ he)) fun i => f (i + 1)
    rw [List.mapIdx_cons, List.mapIdx_cons, List.mapM_cons, readPlugin_writePlugin (h e List.mem_cons_self), hrest]
    rfl

/-- **What the plugin broker makes of the host broker's first message.** -/
theorem receiveDefinition_firstMessage (h : ∀ e ∈ library.effects, e.effectIdentifier ≠ none) :
    receiveDefinition P (library.firstMessage P) = .ok library.definition := by
  have hread : (library.effects.mapIdx writePlugin).mapM readPlugin = .ok library.definition.plugins :=
    mapM_readPlugin h id
  rw [receiveDefinition, EffectLibrary.firstMessage, Platform.message_as_make_message]
  show readDefinition library.remoteHostStarted = _
  simp only [readDefinition, EffectLibrary.remoteHostStarted, deref, List.length_mapIdx]
  show (List.mapM readPlugin (library.effects.mapIdx writePlugin) >>= fun plugins => _) = _
  rw [hread]
  rfl

@[simp] theorem length_definition : library.definition.plugins.length = library.effects.length := by
  simp [EffectLibrary.definition]

theorem definition_getElem? {i : ℕ} :
    library.definition.plugins[i]? = library.effects[i]?.map (definedPlugin i) := by
  simp [EffectLibrary.definition, List.getElem?_mapIdx]

/-- **Neither assertion of the defining loop can fail** on the catalogue of a library. -/
theorem consistent_definition (B : Build) (library : EffectLibrary) : Consistent B library.definition := by
  refine ⟨?_, ?_⟩
  · rw [Sized, length_definition]
    exact Int32.toInt_ofNat_of_lt library.count_fits
  -- round `i` of the host's loop writes `i` as the id
  · rintro ⟨-, i, p, -, hp, hne⟩
    rw [definition_getElem?, Option.map_eq_some_iff] at hp
    obtain ⟨e, -, rfl⟩ := hp
    exact hne rfl

/-! ## The table and the effects -/

/-- The table entry of effect `i` of the library. -/
def tableEntry (api : PluginApi) (i : ℕ) (e : LibraryEffect) (identifier : CStr) : OfxPlugin :=
  { make_plugin api i with
    pluginIdentifier := identifier
    pluginVersionMajor := e.effectVersionMajor
    pluginVersionMinor := e.effectVersionMinor }

/-- The identifier and both versions come through every conversion on the way. -/
theorem filled_definedPlugin {api : PluginApi} {i : ℕ} {e : LibraryEffect} {identifier : CStr}
    (h : e.effectIdentifier = some identifier) :
    filled (definedPlugin i e) (make_plugin api i) = tableEntry api i e identifier := by
  -- a version is unsigned, signed on the way, and unsigned again: no bit changes
  simp [filled, definedPlugin, tableEntry, h]

variable {max : ℕ} {B : Build} {api : PluginApi} {earlier : List SetHostCall} {c : SetHostCall}
  {s t : MfxProxyPlugin max} {r : Except Fault OfxStatus}

/-- A call through an entry reaches the effect at its index. -/
theorem OfxPluginMainEntry_eq {ndebug : Bool} {i : ℕ} {f : MfxProxyEffect} (h : t.m_effects.data[i]? = some f) :
    t.OfxPluginMainEntry ndebug i = .ok f := by
  have hi : i < t.m_effects.data.length := (List.getElem?_eq_some_iff.1 h).1
  rw [MfxProxyPlugin.OfxPluginMainEntry, cassert, if_pos (Or.inr hi), h]
  rfl

/-- **The catalogue round trip.**

For a library of at most `max` effects with identifiers, the first call of `OfxSetHost`
that reaches its loop on what the plugin broker makes of the host's message succeeds and
exports as many effects. Entry `i` of the table has the identifier and the versions of
effect `i` and is otherwise as it was compiled, its main entry reaches the effect with
id `i`, and the entries above are untouched. Both assertions of the loop hold. -/
theorem catalogue_round_trip (hn : library.effects.length ≤ max)
    (hid : ∀ e ∈ library.effects, e.effectIdentifier ≠ none) (hf : FirstReach B api earlier c s t r)
    (hbroker : ∀ d, c.env.definition = some d → receiveDefinition P (library.firstMessage P) = .ok d) :
    r = .ok kOfxStatOK ∧
    t.OfxGetNumberOfPlugins.toInt = library.effects.length ∧
    (∀ (i : ℕ) (e : LibraryEffect) (identifier : CStr), library.effects[i]? = some e →
      e.effectIdentifier = some identifier → ∃ hi : i < max,
        t.ofx_plugins[i] = tableEntry api i e identifier ∧
        ∃ f : MfxProxyEffect, t.callMainEntry B.ndebug (t.ofx_plugins[i]).mainEntry = .ok f ∧ f.m_effect_id.toNat = i) ∧
    (∀ (i : ℕ) (hi : i < max), library.effects.length ≤ i → t.ofx_plugins[i] = make_plugin api i) ∧
    ∃ d, c.env.definition = some d ∧ MfxProxyPlugin.sizeAgrees d ∧
      ∀ (i : ℕ) (p : BrokerPluginDefinition), d.plugins[i]? = some p → p.effect_id = Int32.ofNat i := by
  -- the definition of the handshake is the library's
  obtain ⟨d, -, henv, -⟩ := hf.loop
  have hd : d = library.definition := by
    have := hbroker d henv
    rw [receiveDefinition_firstMessage hid] at this
    exact (Except.ok.inj this).symm
  subst hd
  have hcons := consistent_definition B library
  have hlen : library.definition.plugins.length = library.effects.length := length_definition
  obtain ⟨hr, s₀, hs₀, hD⟩ := hf.defined henv hcons.size (by omega) hcons.ids
  -- nothing has been stored in the table before the loop
  have htable : ∀ i, ∀ hi : i < max, (loopEntry s₀).ofx_plugins[i] = make_plugin api i := by
    intro i hi
    show s₀.ofx_plugins[i] = _
    simp [hs₀.entries, gOfxPlugins]
  have hsmall := library.count_fits
  refine ⟨hr, ?_, ?_, ?_, _, henv, hcons.size.sizeAgrees, ?_⟩
  · rw [getNumberOfPlugins_defined hD (by omega), hlen]
  · intro i e identifier he hidentifier
    have hi : i < library.effects.length := (List.getElem?_eq_some_iff.1 he).1
    have himax : i < max := by omega
    have hp : library.definition.plugins[i]? = some (definedPlugin i e) := by rw [definition_getElem?, he]; rfl
    have hentry : t.ofx_plugins[i] = tableEntry api i e identifier := by
      rw [hD.entries i _ hp himax (by omega), htable i himax, filled_definedPlugin hidentifier]
    refine ⟨himax, hentry, ?_⟩
    -- a relocated effect loses its name only, and its id is what counts here
    have heffect := hD.effects i _ hp (by omega)
    refine ⟨effectAfter B library.definition.plugins.length i (definedPlugin i e), ?_, ?_⟩
    · rw [hentry]
      exact OfxPluginMainEntry_eq heffect
    · show (UInt32.ofNat i).toNat = i
      simp only [UInt32.toNat_ofNat']
      omega
  · intro i hi hle
    rw [hD.untouched i hi (by omega), htable i hi]
  · intro i p hp
    rw [definition_getElem?, Option.map_eq_some_iff] at hp
    obtain ⟨e, -, rfl⟩ := hp
    rfl

/-- A library of two effects, the second with the largest versions. -/
def twoEffects : EffectLibrary where
  effects := [⟨some (c_str "blur"), 1, 0⟩, ⟨some (c_str "twist"), 4294967295, 2147483648⟩]
  count_fits := by decide

/-- A first call on what the plugin broker received from the host broker. -/
def hostedCall : SetHostCall where
  host := none
  bundle_dir := some (c_str "/effects")
  env := .good (receiveDefinition .reference (twoEffects.firstMessage .reference)).toOption

theorem catalogue_round_trip_two :
    let t := (afterCall 4 hostedCall).1
    t.OfxGetNumberOfPlugins.toInt = 2 ∧
      t.ofx_plugins[1] = tableEntry .reference 1 ⟨some (c_str "twist"), 4294967295, 2147483648⟩ (c_str "twist") := by
  have hbroker : ∀ d, hostedCall.env.definition = some d →
      receiveDefinition .reference (twoEffects.firstMessage .reference) = .ok d := by
    intro d hd
    have hreceived : receiveDefinition .reference (twoEffects.firstMessage .reference) = .ok twoEffects.definition :=
      receiveDefinition_firstMessage (by decide)
    rw [hostedCall, SetHostEnv.good, hreceived] at hd
    cases hd
    exact hreceived
  have hfirst := firstReach_afterCall 4 hostedCall (by decide +kernel)
  obtain ⟨-, hcount, hentries, -⟩ := catalogue_round_trip (by decide) (by decide) hfirst hbroker
  obtain ⟨hi, hentry, -⟩ := hentries 1 _ _ rfl rfl
  exact ⟨hcount, hentry⟩

end MfxProxy
