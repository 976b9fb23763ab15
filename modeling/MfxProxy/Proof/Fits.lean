import MfxProxy.Proof.Delivery
import MfxProxy.Proof.Exports
import MfxProxy.Proof.Launch

/-!
# All of the effects or none

* `launch_ends`, `setupEffects_ends`: how the two parts of `OfxSetHost` end.
* `Sound`: how far a call has come, for any interleaving of the two processes.
* `startup_all_or_nothing`: a library that fits is in the table as a whole, or not at all.
* `startup_fault_iff`: what can end the plugin process while both start up.
-/

namespace MfxProxy

open Lib

variable {max : ℕ} {P : Platform} {B : Build} {H : HostEnv} {host : Option Addr} {bundle_dir : Option CStr}
  {env : SetHostEnv} {d : BrokerPluginBundleDefinition}

/-! ## How the parts of `OfxSetHost` end -/

/-- Every step up to the launch goes through. -/
structure SetHostEnv.Launches (env : SetHostEnv) (bundle_dir : Option CStr) : Prop where
  directory : bundle_dir ≠ none
  sockets : env.bind_pub = true ∧ env.bind_sub = true ∧ env.bind_pair = true
  config : env.config_exists = true ∧ env.plugin_path ≠ none
  child : env.host_exists = true ∧ env.launch = true

variable {table : Vector OfxPlugin max} {p : MfxProxyPlugin max}

/-- `setup_sockets` on a plugin that nothing has bound. -/
theorem setup_sockets_goes : Prog.Triple (Fresh table) (MfxProxyPlugin.setup_sockets env)
    (fun _ s => Bound table s ∧ env.bind_pub = true ∧ env.bind_sub = true ∧ env.bind_pair = true)
    (fun _ s => NoEffects table s ∧ ¬ (env.bind_pub = true ∧ env.bind_sub = true ∧ env.bind_pair = true)) := by
  cases hpub : env.bind_pub with
  | true =>
    refine (setup_sockets_ends hpub).conseq (fun _ h => h) (fun _ s h => ?_) fun _ s h => ?_
    · exact ⟨h.1, rfl, h.2⟩
    · refine ⟨h.1, ?_⟩
      rintro ⟨-, hsub, hpair⟩
      rcases h.2.2 with h | h
      · rw [hsub] at h
        cases h
      · rw [hpair] at h
        cases h
  | false =>
    intro s hs
    have hrun : (MfxProxyPlugin.setup_sockets env).run s = (s, .error .error_t) := by
      simp [MfxProxyPlugin.setup_sockets, hpub]
    rw [hrun]
    exact ⟨hs.toNoEffects, by simp⟩

/-- **A launch goes through exactly if every step does.** -/
theorem launch_ends : Prog.Triple (Fresh table) (MfxProxyPlugin.launch host bundle_dir env)
    (fun r s => match r with
      | .inl status => NoEffects table s ∧ status = kOfxStatFailed ∧ ¬ env.Launches bundle_dir
      | .inr _ => (Started table s ∧ s.m_broker.m_plugin_definition = none) ∧ env.Launches bundle_dir)
    (fun f s => NoEffects table s ∧ f = .process_error ∧ ¬ env.Launches bundle_dir) := by
  refine Prog.Triple.bind (Q := fun _ => Fresh table) (Prog.triple_modify fun s h => ?_) fun _ => ?_
  · exact ⟨⟨h.entries, h.effects, h.stores, h.loop_starts⟩, h.broker⟩
  cases bundle_dir with
  | none => exact Prog.triple_pure fun s h => ⟨h.toNoEffects, rfl, fun hl => hl.directory rfl⟩
  | some dir =>
    refine Prog.Triple.bind (Q := fun _ => Fresh table) (Prog.triple_modify fun s h => ?_) fun _ => ?_
    · exact ⟨⟨h.entries, h.effects, h.stores, h.loop_starts⟩, h.broker⟩
    refine Prog.Triple.attempt_bind setup_sockets_goes (fun _ => ?_) fun _ =>
      Prog.triple_pure fun s h => ⟨h.1, rfl, fun hl => h.2 hl.sockets⟩
    refine Prog.triple_and_pure fun hbinds => Prog.Triple.bind start_thread_bound fun _ => ?_
    refine Prog.triple_ite (fun hconfig => Prog.triple_pure fun s h => ?_) fun hconfig => ?_
    · exact ⟨h.1.toNoEffects, rfl, fun hl => by simp [hl.config.1] at hconfig⟩
    split
    · rename_i hpath
      exact Prog.triple_pure fun s h => ⟨h.1.toNoEffects, rfl, fun hl => hl.config.2 hpath⟩
    rename_i plugin_path hpath
    refine Prog.triple_ite (fun hhost => Prog.triple_pure fun s h => ?_) fun hhost => ?_
    · exact ⟨h.1.toNoEffects, rfl, fun hl => by simp [hl.child.1] at hhost⟩
    refine Prog.triple_ite (fun hlaunch => Prog.triple_throw fun s h => ?_) fun hlaunch => ?_
    · exact ⟨h.1.toNoEffects, rfl, fun hl => by simp [hl.child.2] at hlaunch⟩
    refine Prog.triple_get_bind fun s h => Prog.triple_pure ?_
    rintro t rfl
    exact ⟨h, by simp, hbinds, ⟨by simpa using hconfig, by simp [hpath]⟩, by simpa using hhost, by simpa using hlaunch⟩

theorem launch_of_launches (host : Option Addr) (hp : Fresh table p) (h : env.Launches bundle_dir) : ∃ q argv,
    (MfxProxyPlugin.launch host bundle_dir env).run p = (q, .ok (.inr argv)) ∧
      Started table q ∧ q.m_broker.m_plugin_definition = none := by
  have hends : Prog.Triple (Fresh table) (MfxProxyPlugin.launch host bundle_dir env) _ _ := launch_ends
  rcases hrun : (MfxProxyPlugin.launch host bundle_dir env).run p with ⟨q, f | status | argv⟩
  · exact absurd h (hends.of_error hp hrun).2.2
  · exact absurd h (hends.of_ok hp hrun).2.2
  · exact ⟨q, argv, rfl, (hends.of_ok hp hrun).1⟩

/-- The library fits into the table, and all of its effects have identifiers. -/
structure EffectLibrary.Fits (library : EffectLibrary) (max : ℕ) : Prop where
  identifiers : ∀ e ∈ library.effects, e.effectIdentifier ≠ none
  length : library.effects.length ≤ max

theorem defines_definition {library : EffectLibrary} :
    Defines B max library.definition ↔ library.effects.length ≤ max := by
  have hcons := consistent_definition B library
  have hnumber : library.definition.number_of_plugins.toInt = library.effects.length :=
    Int32.toInt_ofNat_of_lt library.count_fits
  have hlen : library.definition.plugins.length = library.effects.length := length_definition
  unfold Defines
  rw [hnumber, hlen]
  constructor
  · rintro ⟨-, hmax, -⟩
    omega
  · intro hmax
    refine ⟨Or.inr hcons.size.sizeAgrees, by omega, le_refl _, not_aborts_iff.mp ?_⟩
    rw [Int.toNat_natCast, ← hlen]
    exact hcons.ids

/-- **What the rest of `OfxSetHost` does** with what its wait has returned. -/
theorem setupEffects_ends (o : Option BrokerPluginBundleDefinition) :
    Prog.Triple (fun s => Started table s ∧ s.m_broker.m_plugin_definition = none)
      (MfxProxyPlugin.setupEffects B { env with definition := o })
      (fun r s => (o = none ∧ NoEffects table s ∧ r = kOfxStatFailed) ∨ r = kOfxStatOK ∧ ∃ d s₀, o = some d ∧
        Defines B max d ∧ NoEffects table s₀ ∧ Defined B d (loopEntry s₀) d.number_of_plugins.toInt.toNat s)
      (fun f _ => (f = .assert ∨ f = .undefined) ∧ ∃ d, o = some d ∧ ¬ Defines B max d) := by
  refine Prog.Triple.bind get_plugin_definition_started fun r => ?_
  refine Prog.triple_and_pure fun hr => ?_
  subst hr
  cases r with
  | none => exact Prog.triple_pure fun s h => Or.inl ⟨rfl, h.1.toNoEffects, rfl⟩
  | some d =>
    intro s₀ h
    have hloop : Prog.Triple (· = s₀) (MfxProxyPlugin.defineEffects B d >>= fun _ => pure kOfxStatOK)
        (fun r s => (some d = none ∧ NoEffects table s ∧ r = kOfxStatFailed) ∨
          r = kOfxStatOK ∧ ∃ d' s₀, some d = some d' ∧
          Defines B max d' ∧ NoEffects table s₀ ∧ Defined B d' (loopEntry s₀) d'.number_of_plugins.toInt.toNat s)
        (fun f _ => (f = .assert ∨ f = .undefined) ∧ ∃ d', some d = some d' ∧ ¬ Defines B max d') := by
      refine ((defineEffects_iff h.1.effects).conseq (fun _ h => h) (fun _ _ h => h) ?_).bind fun _ =>
        Prog.triple_pure ?_
      · rintro f s ⟨hdef, hends⟩
        exact ⟨hends, d, rfl, hdef⟩
      · rintro s ⟨hdef, -, hs⟩
        exact Or.inr ⟨rfl, d, s₀, rfl, hdef, h.1.toNoEffects, hs⟩
    exact hloop s₀ rfl

namespace Startup

variable {s t u : Startup max} {ev : StartupEvent}

/-- An offer that cannot be defined is of a library that does not fit. -/
theorem not_fits_of_offer {d : BrokerPluginBundleDefinition} (hd : H.Offers P env d) (hdef : ¬ Defines B max d) :
    ∃ library, H.Loads env library ∧ ¬ library.Fits max := by
  obtain ⟨library, hloads, hread⟩ := hd
  refine ⟨library, hloads, fun hfits => hdef ?_⟩
  rw [receiveDefinition_firstMessage hfits.identifiers] at hread
  cases hread
  exact defines_definition.mpr hfits.length

/-- How far a call on a plugin that no call has bound has come. -/
structure Sound (B : Build) (H : HostEnv) (P : Platform) (bundle_dir : Option CStr) (env : SetHostEnv)
    (table : Vector OfxPlugin max) (past : List StartupEvent) (s : Startup max) : Prop where
  outside : s.call = .outside → Fresh table s.plugin
  waiting : s.call = .waiting → Started table s.plugin ∧ s.plugin.m_broker.m_plugin_definition = none
  launched : s.call = .waiting ∨ s.pair_socket ≠ [] ∨ s.host ≠ .absent → env.Launches bundle_dir
  fault : ∀ f, s.fault = some f → f ≠ .terminate →
    env.Launches bundle_dir ∧ ∃ library, H.Loads env library ∧ ¬ library.Fits max
  /-- A socket call of the broker's thread has thrown. -/
  terminated : s.fault = some .terminate → .throws .plugin ∈ past
  /-- All of the effects are there, or none. -/
  ended : ∀ r, s.call = .ended r → (∀ f, s.fault = some f → f = .terminate) →
    (NoEffects table s.plugin ∧ (r = .ok kOfxStatFailed ∨ r = .error .process_error)) ∨
    r = .ok kOfxStatOK ∧ ∃ d s₀, H.Offers P env d ∧ Defines B max d ∧ NoEffects table s₀ ∧
      Defined B d (loopEntry s₀) d.number_of_plugins.toInt.toNat s.plugin

theorem sound_start (hp : Fresh table p) : Sound B H P bundle_dir env table [] { plugin := p } where
  outside := fun _ => hp
  waiting := by rintro ⟨⟩
  launched := by simp
  fault := by rintro f ⟨⟩
  terminated := by rintro ⟨⟩
  ended := by rintro r ⟨⟩

theorem sound_step {past : List StartupEvent} (hx : Explained P B H host bundle_dir env p s)
    (hs : Sound B H P bundle_dir env table past s) (h : startupStep P B H host bundle_dir env s ev = some t) :
    Sound B H P bundle_dir env table (past ++ [ev]) t := by
  obtain ⟨houtside, hwaiting, hlaunched, hfault, hterminated, hended⟩ := hs
  have hends : Prog.Triple (Fresh table) (MfxProxyPlugin.launch host bundle_dir env) _ _ := launch_ends
  have hpast : s.fault = some .terminate → .throws .plugin ∈ past ++ [ev] :=
    fun hf => List.mem_append_left _ (hterminated hf)
  cases moves_of_step h with
  | @launched q argv outside run =>
    have hend := hends.of_ok (houtside outside) run
    exact ⟨by rintro ⟨⟩, fun _ => hend.1, fun _ => hend.2, hfault, hpast, by rintro r ⟨⟩⟩
  | @early q status outside run =>
    obtain ⟨hnone, rfl, -⟩ := hends.of_ok (houtside outside) run
    refine ⟨by rintro ⟨⟩, by rintro ⟨⟩, fun hl => hlaunched (Or.inr (hl.resolve_left nofun)), by rintro f ⟨⟩,
      by rintro ⟨⟩, ?_⟩
    rintro r ⟨⟩ -
    exact Or.inl ⟨hnone, Or.inl rfl⟩
  | @threw q f outside run =>
    obtain ⟨hnone, rfl, -⟩ := hends.of_error (houtside outside) run
    refine ⟨by rintro ⟨⟩, by rintro ⟨⟩, fun hl => hlaunched (Or.inr (hl.resolve_left nofun)), by rintro f ⟨⟩,
      by rintro ⟨⟩, ?_⟩
    rintro r ⟨⟩ -
    exact Or.inl ⟨hnone, Or.inr rfl⟩
  | main launched =>
    have hl := hlaunched (Or.inr (Or.inr (by rw [launched]; exact nofun)))
    exact ⟨houtside, hwaiting, fun _ => hl, hfault, hpast, hended⟩
  | sent running loaded =>
    have hl := hlaunched (Or.inr (Or.inr (by rw [running]; exact nofun)))
    exact ⟨houtside, hwaiting, fun _ => hl, hfault, hpast, hended⟩
  | unsent running =>
    have hl := hlaunched (Or.inr (Or.inr (by rw [running]; exact nofun)))
    exact ⟨houtside, hwaiting, fun _ => hl, hfault, hpast, hended⟩
  | received receiving waiting alive read =>
    have hl := hlaunched (Or.inr (Or.inl (by rw [waiting]; exact nofun)))
    exact ⟨houtside, hwaiting, fun _ => hl, hfault, hpast, hended⟩
  | @faulted m ms f receiving waiting alive read =>
    have hl := hlaunched (Or.inr (Or.inl (by rw [waiting]; exact nofun)))
    obtain ⟨library, hloads, rfl⟩ := hx.sent m (by rw [waiting]; exact List.mem_cons_self)
    obtain ⟨hids, rfl⟩ := incomplete_of_error read
    refine ⟨houtside, hwaiting, fun _ => hl, fun _ _ _ => ⟨hl, library, hloads, fun hfits => hids hfits.identifiers⟩,
      by rintro ⟨⟩, ?_⟩
    intro r _ hnone
    cases hnone .undefined rfl
  | published built publisher alive step => exact ⟨houtside, hwaiting, hlaunched, hfault, hpast, hended⟩
  | waited waiting caller alive step => exact ⟨houtside, hwaiting, hlaunched, hfault, hpast, hended⟩
  | @effects result timeout q r waiting returned alive run =>
    have hl := hlaunched (Or.inl waiting)
    have hoffers : ∀ d, result = some d → H.Offers P env d := by
      rintro d rfl
      exact hx.read d timeout (by rw [returned]; rfl)
    cases r with
    | ok status =>
      have hend := (setupEffects_ends result).of_ok (hwaiting waiting) run
      refine ⟨by rintro ⟨⟩, by rintro ⟨⟩, fun _ => hl, by rintro f ⟨⟩, by rintro ⟨⟩, ?_⟩
      rintro r ⟨⟩ -
      rcases hend with ⟨-, hnone, rfl⟩ | ⟨rfl, d, s₀, hd, hdef, hs₀, hq⟩
      · exact Or.inl ⟨hnone, Or.inl rfl⟩
      · exact Or.inr ⟨rfl, d, s₀, hoffers d hd, hdef, hs₀, hq⟩
    | error f =>
      obtain ⟨hends, d, hd, hdef⟩ := (setupEffects_ends result).of_error (hwaiting waiting) run
      have hfaulted : (s.finish q (.error f)).fault = some f := by rcases hends with rfl | rfl <;> rfl
      have hne : f ≠ .terminate := by rcases hends with rfl | rfl <;> exact nofun
      refine ⟨by rintro ⟨⟩, by rintro ⟨⟩, fun _ => hl, fun _ _ _ => ⟨hl, not_fits_of_offer (hoffers d hd) hdef⟩, ?_, ?_⟩
      · intro hterminate
        rw [hfaulted] at hterminate
        exact absurd (Option.some.inj hterminate) hne
      · intro r _ hnone
        exact absurd (hnone f hfaulted) hne
  | terminated called alive =>
    refine ⟨houtside, hwaiting, hlaunched, ?_, fun _ => by simp, fun r hr _ => hended r hr ?_⟩
    · rintro f ⟨⟩ hne
      exact (hne rfl).elim
    · intro f hf
      rw [show s.fault = none from alive] at hf
      cases hf
  | hostTerminated started =>
    exact ⟨houtside, hwaiting, fun _ => hlaunched (Or.inr (Or.inr started)), hfault, hpast, hended⟩

theorem sound_exec {evs : List StartupEvent} (hp : Fresh table p)
    (hu : exec (startupStep P B H host bundle_dir env) { plugin := p } evs = some u) :
    Sound B H P bundle_dir env table evs u := by
  have hboth : Explained P B H host bundle_dir env p u ∧ Sound B H P bundle_dir env table evs u :=
    exec_past (I := fun past s => Explained P B H host bundle_dir env p s ∧ Sound B H P bundle_dir env table past s)
      (fun _ _ _ _ hs h => ⟨explained_step hs.1 h, sound_step hs.1 hs.2 h⟩) ⟨explained_start p, sound_start hp⟩ hu
  exact hboth.2

/-! ## All of the effects or none -/

theorem loads_unique {library library' : EffectLibrary} (h : H.Loads env library)
    (h' : H.Loads env library') : library = library' := by
  obtain ⟨-, plugin_path, hpath, hget⟩ := h
  obtain ⟨-, plugin_path', hpath', hget'⟩ := h'
  rw [hpath] at hpath'
  cases hpath'
  rw [hget] at hget'
  cases hget'
  rfl

/-- The table and the effects after the library has been defined. -/
structure Catalogued (api : PluginApi) (library : EffectLibrary) (q : MfxProxyPlugin max) : Prop where
  count : q.OfxGetNumberOfPlugins.toInt = library.effects.length
  entries : ∀ i e identifier, library.effects[i]? = some e → e.effectIdentifier = some identifier →
    ∃ hi : i < max, q.ofx_plugins[i] = tableEntry api i e identifier
  untouched : ∀ i (hi : i < max), library.effects.length ≤ i → q.ofx_plugins[i] = make_plugin api i
  ids : ∀ i e, q.m_effects.data[i]? = some e → e.m_effect_id = UInt32.ofNat i

theorem catalogued {api : PluginApi} {library : EffectLibrary} {s₀ q : MfxProxyPlugin max} (hfits : library.Fits max)
    (hs₀ : NoEffects (gOfxPlugins api max) s₀) (hq : Defined B library.definition (loopEntry s₀)
      library.definition.number_of_plugins.toInt.toNat q) : Catalogued api library q := by
  have hsmall := library.count_fits
  have hmax := hfits.length
  have hnumber : library.definition.number_of_plugins.toInt = library.effects.length :=
    Int32.toInt_ofNat_of_lt library.count_fits
  have htable : ∀ i, ∀ hi : i < max, (loopEntry s₀).ofx_plugins[i] = make_plugin api i := by
    intro i hi
    show s₀.ofx_plugins[i] = _
    simp [hs₀.entries, gOfxPlugins]
  rw [hnumber, Int.toNat_natCast] at hq
  refine ⟨?_, ?_, ?_, hq.ids⟩
  · rw [getNumberOfPlugins_defined hq (by omega)]
  · intro i e identifier he hidentifier
    have hi : i < library.effects.length := (List.getElem?_eq_some_iff.mp he).1
    have himax : i < max := by omega
    have hp : library.definition.plugins[i]? = some (definedPlugin i e) := by
      rw [definition_getElem?, he]
      rfl
    refine ⟨himax, ?_⟩
    rw [hq.entries i _ hp himax hi, htable i himax, filled_definedPlugin hidentifier]
  · intro i hi hle
    rw [hq.untouched i hi hle, htable i hi]

/-- **All of the effects or none.** If the host process loads a library that fits, then however the
two processes interleave, nothing ends the plugin process but a socket call of its broker's thread
that throws, and a call that has ended has either succeeded, with the whole library in the table,
or failed, with the table as it was compiled and without effects. -/
theorem startup_all_or_nothing {api : PluginApi} {library : EffectLibrary} {evs : List StartupEvent}
    (hp : Fresh (gOfxPlugins api max) p) (hloads : H.Loads env library) (hfits : library.Fits max)
    (hu : exec (startupStep P B H host bundle_dir env) { plugin := p } evs = some u) :
    (∀ f, u.fault = some f → f = .terminate ∧ .throws .plugin ∈ evs) ∧ ∀ r, u.call = .ended r →
      (r = .ok kOfxStatOK ∧ Catalogued api library u.plugin) ∨
      ((r = .ok kOfxStatFailed ∨ r = .error .process_error) ∧
        u.plugin.ofx_plugins = gOfxPlugins api max ∧ u.plugin.m_effects = {}) := by
  have hs := sound_exec hp hu
  have honly : ∀ f, u.fault = some f → f = .terminate := by
    intro f hf
    by_contra hne
    obtain ⟨-, library', hloads', hnot⟩ := hs.fault f hf hne
    rw [loads_unique hloads' hloads] at hnot
    exact hnot hfits
  refine ⟨fun f hf => ?_, fun r hr => ?_⟩
  · obtain rfl := honly f hf
    exact ⟨rfl, hs.terminated hf⟩
  rcases hs.ended r hr honly with ⟨hnone, hfailed⟩ | ⟨rfl, d, s₀, ⟨library', hloads', hread⟩, -, hs₀, hq⟩
  · exact Or.inr ⟨hfailed, hnone.entries, hnone.effects⟩
  · rw [loads_unique hloads' hloads, receiveDefinition_firstMessage hfits.identifiers] at hread
    cases hread
    exact Or.inl ⟨rfl, catalogued hfits hs₀ hq⟩

/-- A host process whose steps all succeed. -/
def hostLoading (library : EffectLibrary) : HostEnv where
  bind_pub := true
  bind_sub := true
  connect := true
  getLibrary _ := .ok (some library)

/-- Both processes start up, and the definition is published while the call waits for it. -/
def promptStartup : List StartupEvent :=
  [.launch, .main, .sendFirst, .receiveFirst] ++ promptWait ++ [.setupEffects]

theorem launches_good (o : Option BrokerPluginBundleDefinition) (dir : CStr) :
    (SetHostEnv.good o).Launches (some dir) :=
  ⟨nofun, ⟨rfl, rfl, rfl⟩, ⟨rfl, nofun⟩, rfl, rfl⟩

theorem loads_hostLoading (library : EffectLibrary) : (hostLoading library).Loads (.good none) library :=
  ⟨⟨rfl, rfl, rfl⟩, _, rfl, rfl⟩

theorem startup_all_or_nothing_two : ∃ u : Startup 4,
    exec (startupStep .reference .reference (hostLoading twoEffects) none (some (c_str "/effects")) (.good none))
      { plugin := .create .reference } promptStartup = some u ∧
    u.fault = none ∧ Catalogued .reference twoEffects u.plugin := by
  have hrun : (exec (startupStep .reference .reference (hostLoading twoEffects) none (some (c_str "/effects"))
      (.good none)) ({ plugin := .create .reference } : Startup 4) promptStartup).any (fun u =>
        match u.call with
        | .ended (.ok status) => status = kOfxStatOK
        | _ => false) = true := by decide +kernel
  obtain ⟨u, hu, hcall⟩ := (Option.any_eq_true _ _).1 hrun
  obtain ⟨honly, hended⟩ := startup_all_or_nothing fresh_create (loads_hostLoading twoEffects)
    ⟨by decide, by decide⟩ hu
  have halive : u.fault = none := by
    by_contra hfault
    obtain ⟨f, hf⟩ := Option.ne_none_iff_exists'.1 hfault
    have hthrows := (honly f hf).2
    simp [promptStartup, promptWait] at hthrows
  refine ⟨u, hu, halive, ?_⟩
  split at hcall
  · rename_i status hstatus
    obtain rfl : status = kOfxStatOK := by simpa using hcall
    rcases hended _ hstatus with ⟨-, hcatalogued⟩ | ⟨hfailed, -⟩
    · exact hcatalogued
    · rcases hfailed with h | h
      · exact absurd (Except.ok.inj h) (by decide)
      · cases h
  · cases hcall

/-! ## Faults -/

/-- **When starting up can end the plugin process**, by anything but a socket call of its broker's
thread that throws: the host process is launched, and loads a library with more effects than the
table has entries, or with an effect that has no identifier. -/
theorem startup_fault_iff (hp : Fresh table p) :
    (∃ evs u f, exec (startupStep P B H host bundle_dir env) { plugin := p } evs = some u ∧ u.fault = some f ∧
      f ≠ .terminate) ↔
    env.Launches bundle_dir ∧ ∃ library, H.Loads env library ∧ ¬ library.Fits max := by
  constructor
  · rintro ⟨evs, u, f, hu, hfault, hne⟩
    exact (sound_exec hp hu).fault f hfault hne
  rintro ⟨hlaunches, library, hloads, hnot⟩
  obtain ⟨q, argv, hlaunch, hq⟩ := launch_of_launches host hp hlaunches
  obtain ⟨name, plugin_path, rfl, hpath⟩ := launch_argv hlaunch
  by_cases hids : ∀ e ∈ library.effects, e.effectIdentifier ≠ none
  · -- the defining loop cannot go through
    have hdef : ¬ Defines B max library.definition :=
      fun hdef => hnot ⟨hids, defines_definition.mp hdef⟩
    have hread : receiveDefinition P (library.firstMessage P) = .ok library.definition :=
      receiveDefinition_firstMessage hids
    rcases hrun : (MfxProxyPlugin.setupEffects B { env with definition := some library.definition }).run q
      with ⟨q', f | status⟩
    · obtain ⟨hends, -⟩ := (setupEffects_ends (some library.definition)).of_error hq hrun
      obtain ⟨evs, s, hu⟩ := exec_prompt hlaunch hpath hloads hread hrun
      refine ⟨evs, _, f, hu, ?_⟩
      rcases hends with rfl | rfl
      · exact ⟨rfl, nofun⟩
      · exact ⟨rfl, nofun⟩
    · exfalso
      rcases (setupEffects_ends (some library.definition)).of_ok hq hrun with ⟨hnone, -⟩ | ⟨-, d, s₀, hd, hd', -⟩
      · cases hnone
      · cases hd
        exact hdef hd'
  · -- the copy loop reads a null pointer
    obtain ⟨x, hsent⟩ : ∃ x, exec (startupStep P B H host bundle_dir env) _ _ = some _ := exec_sent q name hpath hloads
    refine ⟨.launch :: ([.main, .sendFirst] ++ [.receiveFirst]),
      { plugin := q, call := .waiting, host := x, fault := some .undefined }, .undefined, ?_, rfl, nofun⟩
    refine exec_cons.2 ⟨_, step_launch hlaunch, exec_append.2 ⟨_, hsent, exec_cons.2 ⟨_, ?_, exec_nil⟩⟩⟩
    simp only [startupStep, receiveDefinition_incomplete hids, if_true]

/-- A library with an effect that has no identifier. -/
def unnamed : EffectLibrary := ⟨[⟨some (c_str "blur"), 1, 0⟩, ⟨none, 1, 0⟩], by decide⟩

theorem startup_fault_unnamed : ∃ evs, ∃ u : Startup 4, ∃ f,
    exec (startupStep .reference .reference (hostLoading unnamed) none (some (c_str "/effects")) (.good none))
      { plugin := .create .reference } evs = some u ∧ u.fault = some f ∧ f ≠ .terminate := by
  refine (startup_fault_iff fresh_create).2 ⟨launches_good _ _, unnamed, loads_hostLoading unnamed, fun hfits => ?_⟩
  exact hfits.identifiers ⟨none, 1, 0⟩ (by decide) rfl

end Startup

end MfxProxy
