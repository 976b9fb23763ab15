import MfxProxy.Proof.Catalogue
import MfxProxy.Spec.Exports

/-!
# The library as its host sees it

* `defineEffects_iff`: the defining loop goes through exactly on the definitions in `Defines`.
* `OfxSetHost_setUp`: what a call with a bundle directory comes to, outcome by outcome.
* `step_refines`: one call of an exported function is one step of `Contract`.
* `exports_refine`: after any calls in any order, the library is what `Contract` says, and the
  process has ended exactly where `Contract` has no step.
* `bundleDirectory_once`: with the assertions on, a session survives one bundle directory at most.
* `exports_settle`: what is exported after the first bind is never changed, and every effect is
  reached through its entry.
-/

namespace MfxProxy

open Lib

variable {max : ℕ} {B : Build} {api : PluginApi} {table : Vector OfxPlugin max} {d : BrokerPluginBundleDefinition}
  {s s₀ t : MfxProxyPlugin max} {env : SetHostEnv}

/-! ## The defining loop, whatever the definition -/

theorem not_aborts_iff {k : ℕ} : ¬ Aborts B d k ↔
    (B.ndebug = true ∨ ∀ i < k, ∀ p ∈ d.plugins[i]?, p.effect_id = Int32.ofNat i) := by
  unfold Aborts
  constructor
  · intro h
    cases hnd : B.ndebug with
    | true => exact Or.inl rfl
    | false =>
      refine Or.inr fun i hi p hp => ?_
      by_contra hne
      exact h ⟨hnd, i, p, hi, hp, hne⟩
  · rintro (hnd | hids) ⟨hnd', i, p, hi, hp, hne⟩
    · rw [hnd] at hnd'
      cases hnd'
    · exact hne (hids i hi p hp)

/-- The rounds so far, inside the table and the list. -/
theorem rounds_fit (n : ℕ) : Prog.Triple (fun s => Defined B d s₀ 0 s)
    (Prog.forEach (MfxProxyPlugin.defineEffect B d) (List.range n))
    (fun _ s => Defined B d s₀ n s ∧ n ≤ max ∧ n ≤ d.plugins.length) (fun f _ => f = .assert ∨ f = .undefined) := by
  have hloop : Prog.Triple (fun s => Defined B d s₀ 0 s ∧ 0 ≤ max ∧ 0 ≤ d.plugins.length)
      (Prog.forEach (MfxProxyPlugin.defineEffect B d) (List.range n))
      (fun _ s => Defined B d s₀ n s ∧ n ≤ max ∧ n ≤ d.plugins.length) (fun f _ => f = .assert ∨ f = .undefined) := by
    refine Prog.triple_forEach_range (I := fun k s => Defined B d s₀ k s ∧ k ≤ max ∧ k ≤ d.plugins.length) n ?_
    rintro k - s ⟨hs, hle, -⟩
    cases hp : d.plugins[k]? with
    | none =>
      -- past the list
      have hrun : (MfxProxyPlugin.defineEffect B d k).run s = (s, .error .undefined) := by
        rw [MfxProxyPlugin.defineEffect, if_neg (by omega), hp]
        rfl
      rw [hrun]
      exact Or.inr rfl
    | some p =>
      have hlt : k < d.plugins.length := (List.getElem?_eq_some_iff.mp hp).1
      by_cases hid : B.ndebug = true ∨ p.effect_id = Int32.ofNat k
      · rcases Nat.lt_or_eq_of_le hle with hk | rfl
        · obtain ⟨u, hrun, hround⟩ := defineEffect_ok hk hp hid hs.length
          rw [hrun]
          exact ⟨hs.round hp hid hround, hk, hlt⟩
        · -- the store past the table
          rw [defineEffect_overflow hp hid]
          exact Or.inr rfl
      · rw [defineEffect_assert hle hp hid]
        exact Or.inl rfl
  exact hloop.conseq (fun s hs => ⟨hs, Nat.zero_le _, Nat.zero_le _⟩) (fun _ _ h => h) fun _ _ h => h

/-- **The defining loop goes through exactly if it stays inside**, and otherwise ends the
process: an assertion fails, or it reads past the list or stores past the table. -/
theorem defineEffects_iff (h₀ : s₀.m_effects = {}) : Prog.Triple (· = s₀) (MfxProxyPlugin.defineEffects B d)
    (fun _ s => Defines B max d ∧ d.number_of_plugins.toInt.toNat ≤ d.plugins.length ∧
      Defined B d (loopEntry s₀) d.number_of_plugins.toInt.toNat s)
    (fun f _ => ¬ Defines B max d ∧ (f = .assert ∨ f = .undefined)) := by
  have hstart : Defined B d (loopEntry s₀) 0 (loopEntry s₀) := defined_zero h₀
  unfold MfxProxyPlugin.defineEffects
  refine Prog.Triple.bind (Q := fun _ s => s = s₀ ∧ (B.ndebug = true ∨ MfxProxyPlugin.sizeAgrees d))
    (Prog.triple_lift ?_ ?_) fun _ => ?_
  · intro _ s hok hs
    refine ⟨hs, ?_⟩
    by_contra hnot
    rw [cassert, if_neg hnot] at hok
    cases hok
  · intro f s herr hs
    by_cases hsize : B.ndebug = true ∨ MfxProxyPlugin.sizeAgrees d
    · rw [cassert, if_pos hsize] at herr
      cases herr
    · rw [cassert, if_neg hsize] at herr
      cases herr
      exact ⟨fun hdef => hsize hdef.1, Or.inl rfl⟩
  refine Prog.triple_and_pure fun hsize => ?_
  refine Prog.Triple.bind (Q := fun _ s => s = loopEntry s₀) (Prog.triple_modify fun s hs => ?_) fun _ => ?_
  · subst hs
    rfl
  rintro s rfl
  by_cases hdef : Defines B max d
  · obtain ⟨-, hmax, hlen, hids⟩ := hdef
    obtain ⟨u, hrun, hu⟩ := rounds_ok (s := loopEntry s₀) (n := d.number_of_plugins.toInt.toNat) (by omega) (by omega)
      (not_aborts_iff.mpr hids) h₀
    rw [hrun]
    exact ⟨⟨hsize, hmax, hlen, hids⟩, by omega, hu⟩
  · -- were the loop to go through, it would have stayed inside
    have hfit := rounds_fit d.number_of_plugins.toInt.toNat _ hstart
    rcases hrun : (Prog.forEach (MfxProxyPlugin.defineEffect B d) (List.range d.number_of_plugins.toInt.toNat)).run
      (loopEntry s₀) with ⟨u, f | a⟩
    · rw [hrun] at hfit
      exact ⟨hdef, hfit⟩
    · rw [hrun] at hfit
      obtain ⟨hu, hmax, hlen⟩ := hfit
      exact absurd ⟨hsize, by omega, by omega, not_aborts_iff.mp hu.asserted⟩ hdef

/-! ## One call of `OfxSetHost` -/

/-- What the exported functions rely on, whatever was defined. -/
structure Loaded (s : MfxProxyPlugin max) : Prop where
  mainEntry : ∀ i (hi : i < max), s.ofx_plugins[i].mainEntry = .StaticOfxPluginMainEntry i
  setHost : ∀ i (hi : i < max), s.ofx_plugins[i].setHost = .StaticOfxPluginSetHost i
  ids : ∀ i e, s.m_effects.data[i]? = some e → e.m_effect_id = UInt32.ofNat i
  length : s.m_effects.data.length ≤ max

theorem NoEffects.loaded (h : NoEffects (gOfxPlugins api max) s) : Loaded s := by
  refine ⟨fun i hi => ?_, fun i hi => ?_, fun i e he => ?_, ?_⟩
  · simp [h.entries, gOfxPlugins, make_plugin]
  · simp [h.entries, gOfxPlugins, make_plugin]
  · rw [h.effects] at he
    simp at he
  · simp [h.effects]

theorem Defined.loaded {k : ℕ} (h : Defined B d s₀ k t) (hs₀ : Loaded s₀) (hk : k ≤ max) (hlen : k ≤ d.plugins.length) :
    Loaded t := by
  -- an entry is filled or as it was, with the same functions
  have hentry : ∀ i (hi : i < max), t.ofx_plugins[i].mainEntry = s₀.ofx_plugins[i].mainEntry ∧
      t.ofx_plugins[i].setHost = s₀.ofx_plugins[i].setHost := by
    intro i hi
    rcases Nat.lt_or_ge i k with hlt | hge
    · have hp : d.plugins[i]? = some d.plugins[i] := List.getElem?_eq_getElem (by omega)
      rw [h.entries i _ hp hi hlt]
      exact ⟨rfl, rfl⟩
    · rw [h.untouched i hi hge]
      exact ⟨rfl, rfl⟩
  refine ⟨fun i hi => ?_, fun i hi => ?_, h.ids, h.length ▸ hk⟩
  · rw [(hentry i hi).1, hs₀.mainEntry i hi]
  · rw [(hentry i hi).2, hs₀.setHost i hi]

/-- How `setup_sockets` ends on a plugin that nothing has bound. -/
theorem setup_sockets_ends (hpub : env.bind_pub = true) :
    Prog.Triple (Fresh table) (MfxProxyPlugin.setup_sockets env)
      (fun _ s => Bound table s ∧ env.bind_sub = true ∧ env.bind_pair = true)
      (fun _ s => NoEffects table s ∧ s.m_broker.pub_bound = true ∧
        (env.bind_sub = false ∨ env.bind_pair = false)) := by
  intro s hs
  have hbroker := hs.broker
  obtain ⟨hentries, heffects, hstores, hstarts⟩ := hs.toNoEffects
  unfold MfxProxyPlugin.setup_sockets MfxProxyPlugin.onBroker
  rw [Prog.run_get_bind]
  cases hsub : env.bind_sub with
  | false =>
    simp only [hbroker, hpub, Bool.not_true, Bool.or_false, Bool.false_eq_true, if_false, Prog.run_modify_bind,
      Bool.not_false, Bool.or_true, if_true, Prog.run_throw]
    exact ⟨⟨hentries, heffects, hstores, hstarts⟩, trivial, Or.inl trivial⟩
  | true =>
    cases hpair : env.bind_pair with
    | false =>
      simp only [hbroker, hpub, Bool.not_true, Bool.or_false, Bool.false_eq_true, if_false, Prog.run_modify_bind,
        Bool.not_false, if_true, Prog.run_throw]
      exact ⟨⟨hentries, heffects, hstores, hstarts⟩, trivial, Or.inr trivial⟩
    | true =>
      simp only [hbroker, hpub, Bool.not_true, Bool.or_false, Bool.false_eq_true, if_false, Prog.run_modify_bind,
        Prog.run_modify]
      exact ⟨⟨⟨hentries, heffects, hstores, hstarts⟩, rfl, rfl, rfl, rfl⟩, trivial, trivial⟩

/-- What `OfxSetBundleDirectory` makes of the way its call ended. -/
def afterwards {α : Type} (B : Build) (s : α) : Except Fault OfxStatus → Option α
  | .ok status => if B.ndebug = true ∨ status = kOfxStatOK then some s else none
  | .error f => if f.fatal then none else some s

theorem afterwards_failed (s : Contract) : afterwards B s (.ok kOfxStatFailed) = s.failed B := by
  have hne : kOfxStatFailed ≠ kOfxStatOK := by decide
  unfold afterwards Contract.failed
  simp [hne]

/-- A call with a bundle directory has come to what `Contract.setUp` says. -/
structure SetUp (B : Build) (env : SetHostEnv) (r : Except Fault OfxStatus) (t : MfxProxyPlugin max) : Prop where
  contract : Contract.setUp B max env { made := true, bound := true } =
    afterwards B { made := true, bound := true, effects := t.m_effects.data.length } r
  /-- As long as the process goes on. -/
  survives : (∀ f, r = .error f → f.fatal = false) → t.m_broker.pub_bound = true ∧ Loaded t

/-- An early return after the first bind. -/
theorem SetUp.failed (hs : NoEffects (gOfxPlugins api max) s) (hpub : s.m_broker.pub_bound = true)
    (h : Contract.setUp B max env { made := true, bound := true } =
      Contract.failed B { made := true, bound := true }) : SetUp B env (.ok kOfxStatFailed) s := by
  refine ⟨?_, fun _ => ⟨hpub, hs.loaded⟩⟩
  rw [h, hs.effects, afterwards_failed]
  rfl

/-- **What a call with a bundle directory comes to**, once the first socket is bound. -/
theorem OfxSetHost_setUp (host : Option Addr) (dir : CStr) (hpub : env.bind_pub = true) :
    Prog.Triple (Fresh (gOfxPlugins api max)) (MfxProxyPlugin.OfxSetHost B host (some dir) env)
      (fun status => SetUp B env (.ok status)) (fun f => SetUp B env (.error f)) := by
  refine Prog.Triple.bind (Q := fun _ => Fresh (gOfxPlugins api max)) (Prog.triple_modify fun s h => ?_) fun _ => ?_
  · exact ⟨⟨h.entries, h.effects, h.stores, h.loop_starts⟩, h.broker⟩
  refine Prog.Triple.bind (Q := fun _ => Fresh (gOfxPlugins api max)) (Prog.triple_modify fun s h => ?_) fun _ => ?_
  · exact ⟨⟨h.entries, h.effects, h.stores, h.loop_starts⟩, h.broker⟩
  refine Prog.Triple.attempt_bind (setup_sockets_ends hpub) (fun _ => ?_) fun _ => Prog.triple_pure ?_
  · refine Prog.triple_and_pure fun hbinds => ?_
    obtain ⟨hsub, hpair⟩ := hbinds
    refine Prog.Triple.bind start_thread_bound fun _ => ?_
    -- each test of the code is one of `Contract.setUp`
    refine Prog.triple_ite (fun hconfig => Prog.triple_pure fun s h => ?_) fun hconfig => ?_
    · exact SetUp.failed h.1.toNoEffects h.1.pub (by simp_all [Contract.setUp])
    refine Prog.triple_ite (fun hpath => Prog.triple_pure fun s h => ?_) fun hpath => ?_
    · exact SetUp.failed h.1.toNoEffects h.1.pub (by simp_all [Contract.setUp])
    refine Prog.triple_ite (fun hhost => Prog.triple_pure fun s h => ?_) fun hhost => ?_
    · exact SetUp.failed h.1.toNoEffects h.1.pub (by simp_all [Contract.setUp])
    have hready : (!env.bind_sub || !env.bind_pair || !env.config_exists || env.plugin_path = none ||
        !env.host_exists) = false := by
      simp_all
    refine Prog.triple_ite (fun hlaunch => Prog.triple_throw fun s h => ?_) fun hlaunch => ?_
    · refine ⟨?_, fun _ => ⟨h.1.pub, h.1.toNoEffects.loaded⟩⟩
      rw [Contract.setUp, if_neg (by rw [hready]; decide), if_pos hlaunch, h.1.effects]
      rfl
    refine Prog.Triple.bind get_plugin_definition_started fun r => ?_
    refine Prog.triple_and_pure fun hr => ?_
    cases r with
    | none =>
      refine Prog.triple_pure fun s h => SetUp.failed h.1.toNoEffects h.1.pub ?_
      rw [Contract.setUp, if_neg (by rw [hready]; decide), if_neg hlaunch, ← hr]
    | some d =>
      have hsetUp : Contract.setUp B max env { made := true, bound := true } = if Defines B max d then
          some { made := true, bound := true, effects := d.number_of_plugins.toInt.toNat } else none := by
        rw [Contract.setUp, if_neg (by rw [hready]; decide), if_neg hlaunch, ← hr]
      intro s₀ h
      have hloaded : Loaded (loopEntry s₀) := by
        obtain ⟨hmain, hset, hids, hlen⟩ := h.1.toNoEffects.loaded
        exact ⟨hmain, hset, hids, hlen⟩
      have hend : Prog.Triple (· = s₀) (MfxProxyPlugin.defineEffects B d >>= fun _ => pure kOfxStatOK)
          (fun status => SetUp B env (.ok status)) (fun f => SetUp B env (.error f)) := by
        refine Prog.Triple.bind (Q := fun _ => SetUp B env (.ok kOfxStatOK)) ?_ fun _ => Prog.triple_pure fun _ h => h
        refine (defineEffects_iff h.1.effects).conseq (fun _ h => h) (fun _ s hdone => ?_) fun f s hdone => ?_
        · obtain ⟨hdef, hlen, hs⟩ := hdone
          refine ⟨?_, fun _ => ⟨?_, hs.loaded hloaded ?_ hlen⟩⟩
          · rw [hsetUp, if_pos hdef, hs.length]
            simp [afterwards]
          · rw [hs.broker]
            exact h.1.pub
          · have hmax := hdef.2.1
            omega
        · obtain ⟨hdef, hends⟩ := hdone
          have hfatal : f.fatal = true := by rcases hends with rfl | rfl <;> rfl
          refine ⟨?_, fun hgoes => ?_⟩
          · rw [hsetUp, if_neg hdef, afterwards, if_pos hfatal]
          · rw [hgoes f rfl] at hfatal
            cases hfatal
      exact hend s₀ rfl
  · rintro s ⟨hs, hbound, hbinds⟩
    exact SetUp.failed hs hbound (by rcases hbinds with h | h <;> simp [Contract.setUp, h])

/-! ## One call of an exported function -/

/-- What no method assigns: the effect but for its sockets and its host. -/
def MfxProxyEffect.kept (e : MfxProxyEffect) : MfxProxyEffect :=
  { e with m_pub_socket := none, m_sub_socket := none, host := none }

/-- What holds between the calls. -/
structure Exports.Ready (api : PluginApi) (s : Exports max) : Prop where
  loaded : ∀ p, s.g_MfxProxyPlugin = some p → Loaded p
  fresh : ∀ p, s.g_MfxProxyPlugin = some p → p.m_broker.pub_bound = false → Fresh (gOfxPlugins api max) p

namespace Exports

variable {x : Exports max} {p q : MfxProxyPlugin max} {path : Option CStr} {r : Except Fault OfxStatus}

theorem ready_empty : Ready api ({} : Exports max) :=
  ⟨fun _ hp => (Option.some_ne_none _ hp.symm).elim, fun _ hp => (Option.some_ne_none _ hp.symm).elim⟩

/-- A plugin whose first socket is bound. -/
theorem ready_bound (hpub : p.m_broker.pub_bound = true) (hp : Loaded p) : Ready api ⟨some p⟩ := by
  refine ⟨?_, ?_⟩
  · rintro q hq
    cases hq
    exact hp
  · rintro q hq hunbound
    cases hq
    rw [hpub] at hunbound
    cases hunbound

/-- A plugin of which only the host and the directory have changed. -/
theorem ready_with (hp : Ready api ⟨some p⟩) (host : Option Addr) (dir : String) :
    Ready api ⟨some { p with m_ofx_host := host, m_bundle_directory := dir }⟩ := by
  refine ⟨?_, ?_⟩
  · rintro q hq
    cases hq
    obtain ⟨hmain, hset, hids, hlen⟩ := hp.loaded p rfl
    exact ⟨hmain, hset, hids, hlen⟩
  · rintro q hq hunbound
    cases hq
    obtain ⟨⟨hentries, heffects, hstores, hstarts⟩, hbroker⟩ := hp.fresh p rfl hunbound
    exact ⟨⟨hentries, heffects, hstores, hstarts⟩, hbroker⟩

/-- The plugin that a call works on. -/
theorem ready_ensured (h : Ready api x) : Ready api ⟨some (x.g_MfxProxyPlugin.getD (.create api))⟩ := by
  cases hx : x.g_MfxProxyPlugin with
  | none =>
    have hcreate : Fresh (gOfxPlugins api max) (MfxProxyPlugin.create api) := fresh_create
    refine ⟨?_, ?_⟩
    · rintro q hq
      cases hq
      exact hcreate.toNoEffects.loaded
    · rintro q hq -
      cases hq
      exact hcreate
  | some p => exact ⟨fun q hq => h.loaded q (hx.trans hq), fun q hq => h.fresh q (hx.trans hq)⟩

theorem contract_ensured (api : PluginApi) (x : Exports max) :
    contract ⟨some (x.g_MfxProxyPlugin.getD (.create api))⟩ = { x.contract with made := true } := by
  unfold contract
  cases x.g_MfxProxyPlugin with
  | none => rfl
  | some p => rfl

/-- A call of `OfxSetBundleDirectory` ends as the plugin's `OfxSetHost` does. -/
theorem step_OfxSetBundleDirectory (hp : x.g_MfxProxyPlugin.getD (.create api) = p)
    (hrun : (MfxProxyPlugin.OfxSetHost B none path env).run p = (q, r)) :
    step B api x (.OfxSetBundleDirectory path env) = afterwards B ⟨some q⟩ r := by
  have hcall : (call B api (.OfxSetBundleDirectory path env)).run x =
      (⟨some q⟩, (r.bind fun status => cassert B.ndebug (status = kOfxStatOK)).map fun _ => .nothing) := by
    unfold call OfxSetBundleDirectory ensurePlugin
    rw [Prog.run_map, Prog.run_modify_bind, hp, Prog.run_bind]
    have hon : (onPlugin (MfxProxyPlugin.OfxSetHost B none path env)).run ⟨some p⟩ = (⟨some q⟩, r) := by
      unfold onPlugin
      rw [Prog.run_get_bind]
      simp [deref, hrun]
    rw [hon]
    cases r <;> rfl
  unfold step
  rw [hcall]
  cases r with
  | error f => rfl
  | ok status =>
    unfold afterwards cassert
    by_cases hok : B.ndebug = true ∨ status = kOfxStatOK
    · simp [Except.bind, Except.map, hok]
    · simp [Except.bind, Except.map, hok, Fault.fatal]

theorem afterwards_map {α β : Type} (f : α → β) (a : α) : (afterwards B a r).map f = afterwards B (f a) r := by
  cases r with
  | error e =>
    simp only [afterwards]
    split <;> rfl
  | ok status =>
    simp only [afterwards]
    split <;> rfl

/-- The process goes on. -/
theorem afterwards_some {α : Type} {a b : α} (h : afterwards B a r = some b) :
    a = b ∧ ∀ f, r = .error f → f.fatal = false := by
  cases r with
  | ok status =>
    simp only [afterwards] at h
    split at h
    · cases h
      exact ⟨rfl, fun f hf => by cases hf⟩
    · cases h
  | error f =>
    simp only [afterwards] at h
    split at h
    · cases h
    · rename_i hfatal
      cases h
      refine ⟨rfl, fun g hg => ?_⟩
      cases hg
      simpa using hfatal

/-- What is left of the state matters only if the process goes on. -/
theorem afterwards_congr {α : Type} {a b : α} (h : (∀ f, r = .error f → f.fatal = false) → a = b) :
    afterwards B a r = afterwards B b r := by
  cases hb : afterwards B b r with
  | some c =>
    have hgoes := (afterwards_some hb).2
    rw [h hgoes, hb]
  | none =>
    cases ha : afterwards B a r with
    | none => rfl
    | some c =>
      have hgoes := (afterwards_some ha).2
      rw [h hgoes, hb] at ha
      cases ha

/-- A step that is the one of `Contract`, and leaves the library ready. -/
def Refines (B : Build) (api : PluginApi) (x : Exports max) (c : ExportCall max) : Prop :=
  (step B api x c).map contract = Contract.step B x.contract c ∧ ∀ y, step B api x c = some y → Ready api y

theorem refines_OfxSetHost (hx : Ready api x) (host : Option Addr) : Refines B api x (.OfxSetHost host env) := by
  have hstep : step B api x (.OfxSetHost host env) =
      some ⟨some { x.g_MfxProxyPlugin.getD (.create api) with m_ofx_host := host }⟩ := rfl
  refine ⟨?_, fun y hy => ?_⟩
  · rw [hstep]
    exact congrArg some (contract_ensured api x)
  · rw [hstep] at hy
    cases hy
    exact ready_with (ready_ensured hx) host _

/-- A call that fails short of the first bind, or at it. -/
theorem OfxSetHost_unset (h : path = none ∨ p.m_broker.pub_bound = true ∨ env.bind_pub = false) :
    ∃ dir, (MfxProxyPlugin.OfxSetHost B none path env).run p =
      ({ p with m_ofx_host := none, m_bundle_directory := dir }, .ok kOfxStatFailed) := by
  cases path with
  | none => exact ⟨p.m_bundle_directory, rfl⟩
  | some dir =>
    refine ⟨dir.str, ?_⟩
    have hfails : p.m_broker.pub_bound || !env.bind_pub := by
      rcases h with h | h | h
      · cases h
      · simp [h]
      · simp [h]
    unfold MfxProxyPlugin.OfxSetHost
    rw [Prog.run_modify_bind, Prog.run_modify_bind, Prog.run_attempt_bind]
    unfold MfxProxyPlugin.setup_sockets
    rw [Prog.run_get_bind, if_pos (by exact hfails)]
    rfl

theorem refines_OfxSetBundleDirectory (hx : Ready api x) (path : Option CStr) (env : SetHostEnv) :
    Refines B api x (.OfxSetBundleDirectory path env) := by
  obtain ⟨p, hp⟩ : ∃ p, x.g_MfxProxyPlugin.getD (.create api) = p := ⟨_, rfl⟩
  have hready : Ready api ⟨some p⟩ := hp ▸ ready_ensured hx
  have hcontract : contract ⟨some p⟩ = { x.contract with made := true } := hp ▸ contract_ensured api x
  have hbound : p.m_broker.pub_bound = x.contract.bound := congrArg Contract.bound hcontract
  by_cases hunset : path = none ∨ p.m_broker.pub_bound = true ∨ env.bind_pub = false
  · obtain ⟨dir, hrun⟩ := OfxSetHost_unset (B := B) hunset
    have hstep := step_OfxSetBundleDirectory hp hrun
    refine ⟨?_, fun y hy => ?_⟩
    · rw [hstep, afterwards_map, afterwards_failed, Contract.step, if_pos (by simpa [← hbound, or_assoc] using hunset)]
      exact congrArg (Contract.failed B) hcontract
    · rw [hstep] at hy
      obtain ⟨rfl, -⟩ := afterwards_some hy
      exact ready_with hready none dir
  · -- the first socket is bound by this call
    push Not at hunset
    obtain ⟨hpath, hunbound, hpub⟩ := hunset
    obtain ⟨dir, rfl⟩ := Option.ne_none_iff_exists'.mp hpath
    have hfresh := hready.fresh p rfl (by simpa using hunbound)
    have hend : ∀ q r, (MfxProxyPlugin.OfxSetHost B none (some dir) env).run p = (q, r) → SetUp B env r q := by
      intro q r hrun
      have htriple : Prog.Triple (Fresh (gOfxPlugins api max)) _ _ _ :=
        OfxSetHost_setUp (B := B) none dir (by simpa using hpub)
      cases r with
      | ok status => exact htriple.of_ok hfresh hrun
      | error f => exact htriple.of_error hfresh hrun
    rcases hrun : (MfxProxyPlugin.OfxSetHost B none (some dir) env).run p with ⟨q, r⟩
    have hstep := step_OfxSetBundleDirectory hp hrun
    obtain ⟨hsetUp, hsurvives⟩ := hend q r hrun
    refine ⟨?_, fun y hy => ?_⟩
    · have hnone : contract ⟨some p⟩ = { made := true } := by
        unfold contract
        simp [hfresh.broker, hfresh.effects]
      have hq : (∀ f, r = .error f → f.fatal = false) →
          contract ⟨some q⟩ = { made := true, bound := true, effects := q.m_effects.data.length } := by
        intro hgoes
        unfold contract
        simp [(hsurvives hgoes).1]
      have hbefore : x.contract.effects = 0 := by
        rw [hnone] at hcontract
        exact (congrArg Contract.effects hcontract).symm
      rw [hstep, afterwards_map, afterwards_congr hq, ← hsetUp, Contract.step,
        if_neg (by simp_all), hbefore]
    · rw [hstep] at hy
      obtain ⟨rfl, hgoes⟩ := afterwards_some hy
      obtain ⟨hq, hloaded⟩ := hsurvives hgoes
      exact ready_bound hq hloaded

/-- A call that changes nothing, and ends the process unless `φ`. -/
theorem refines_query (hx : Ready api x) {c : ExportCall max} {φ : Prop} [Decidable φ]
    (hstep : Contract.step B x.contract c = if φ then some x.contract else none)
    (hok : φ → ∃ reply, (call B api c).run x = (x, .ok reply))
    (herr : ¬ φ → ∃ f, (call B api c).run x = (x, .error f) ∧ f.fatal = true) : Refines B api x c := by
  by_cases hφ : φ
  · obtain ⟨reply, hrun⟩ := hok hφ
    have hgoes : step B api x c = some x := by
      unfold step
      rw [hrun]
    refine ⟨?_, fun y hy => ?_⟩
    · rw [hgoes, hstep, if_pos hφ]
      rfl
    · rw [hgoes] at hy
      cases hy
      exact hx
  · obtain ⟨f, hrun, hfatal⟩ := herr hφ
    have hends : step B api x c = none := by
      unfold step
      rw [hrun]
      exact if_pos hfatal
    refine ⟨?_, fun y hy => ?_⟩
    · rw [hends, hstep, if_neg hφ]
      rfl
    · rw [hends] at hy
      cases hy

theorem run_ofPlugin_none {α : Type} {f : MfxProxyPlugin max → Except Fault α} (hx : x.g_MfxProxyPlugin = none) :
    (ofPlugin f).run x = (x, .error .undefined) := by
  unfold ofPlugin
  rw [Prog.run_get_bind, hx]
  rfl

theorem run_ofPlugin_some {α : Type} {f : MfxProxyPlugin max → Except Fault α} (hx : x.g_MfxProxyPlugin = some p) :
    (ofPlugin f).run x = (x, f p) := by
  unfold ofPlugin
  rw [Prog.run_get_bind, hx]
  rfl

theorem refines_OfxGetNumberOfPlugins (hx : Ready api x) : Refines B api x .OfxGetNumberOfPlugins := by
  have hcall : call B api .OfxGetNumberOfPlugins =
      ExportReply.number <$> (OfxGetNumberOfPlugins : Code max Int32) := rfl
  refine refines_query (φ := x.contract.made = true) hx rfl ?_ ?_
  · intro hmade
    cases hg : x.g_MfxProxyPlugin with
    | none => simp [contract, hg] at hmade
    | some p =>
      refine ⟨.number p.OfxGetNumberOfPlugins, ?_⟩
      rw [hcall, Prog.run_map, OfxGetNumberOfPlugins, run_ofPlugin_some hg]
      rfl
  · intro hmade
    cases hg : x.g_MfxProxyPlugin with
    | none =>
      refine ⟨.undefined, ?_, rfl⟩
      rw [hcall, Prog.run_map, OfxGetNumberOfPlugins, run_ofPlugin_none hg]
      rfl
    | some p => simp [contract, hg] at hmade

theorem run_OfxGetPlugin {nth : Int32} : (call B api (.OfxGetPlugin nth)).run x = (x,
    (MfxProxyPlugin.OfxGetPlugin B.ndebug (x.g_MfxProxyPlugin.getD (.create api)) nth).map .plugin) := by
  unfold call OfxGetPlugin
  rw [Prog.run_map, Prog.run_get_bind, Prog.run_lift]

theorem refines_OfxGetPlugin (hx : Ready api x) (nth : Int32) : Refines B api x (.OfxGetPlugin nth) := by
  have hrun : (call B api (.OfxGetPlugin nth)).run x = _ := run_OfxGetPlugin
  refine refines_query (φ := 0 ≤ nth.toInt ∧ (nth.toInt < max ∨ B.ndebug = true)) hx rfl ?_ ?_
  · rintro ⟨hnonneg, hmax⟩
    rcases lt_or_ge nth.toInt (max : ℤ) with hlt | hge
    · obtain ⟨entry, hentry, -⟩ := OfxGetPlugin_entry hnonneg hlt
      exact ⟨_, hrun.trans (by rw [hentry]; rfl)⟩
    · have hndebug : B.ndebug = true := hmax.resolve_left (by omega)
      refine ⟨.plugin none, hrun.trans ?_⟩
      rw [MfxProxyPlugin.OfxGetPlugin, if_neg (by omega), hndebug]
      rfl
  · intro hout
    rcases lt_or_ge nth.toInt (max : ℤ) with hlt | hge
    · -- below zero only the upper bound is checked
      obtain ⟨k, hk⟩ := Int.eq_negSucc_of_lt_zero (show nth.toInt < 0 by omega)
      refine ⟨.undefined, hrun.trans ?_, rfl⟩
      rw [MfxProxyPlugin.OfxGetPlugin, if_pos hlt, hk]
      rfl
    · have hndebug : B.ndebug = false := by
        cases hnd : B.ndebug with
        | false => rfl
        | true => exact absurd ⟨by omega, Or.inr hnd⟩ hout
      refine ⟨.assert, hrun.trans ?_, rfl⟩
      rw [MfxProxyPlugin.OfxGetPlugin, if_neg (by omega), hndebug]
      rfl

theorem run_onPlugin_none {α : Type} {f : MfxProxyPlugin.Code max α} (hx : x.g_MfxProxyPlugin = none) :
    (onPlugin f).run x = (x, .error .undefined) := by
  unfold onPlugin
  rw [Prog.run_get_bind, hx]
  rfl

theorem run_onPlugin_some {α : Type} {f : MfxProxyPlugin.Code max α} (hx : x.g_MfxProxyPlugin = some p) :
    (onPlugin f).run x = (⟨some (f.run p).1⟩, (f.run p).2) := by
  unfold onPlugin
  rw [Prog.run_get_bind, hx]
  rfl

/-- A method of an effect that is there. -/
theorem run_onEffect {α : Type} {N : ℕ} {method : MfxProxyEffect → MfxProxyEffect} {result : Except Fault α}
    (hN : N < p.m_effects.data.length) : (MfxProxyPlugin.onEffect B.ndebug N method result).run p =
      ({ p with m_effects := p.m_effects.modify N method }, result) := by
  unfold MfxProxyPlugin.onEffect
  rw [Prog.run_get_bind, OfxPluginMainEntry_eq (List.getElem?_eq_getElem hN), Prog.run_lift_ok_bind,
    Prog.run_modify_bind, Prog.run_lift]

/-- A method of one that is not: the assertion fails, or the vector is read out of its bounds. -/
theorem run_onEffect_past {α : Type} {N : ℕ} {method : MfxProxyEffect → MfxProxyEffect} {result : Except Fault α}
    (hN : ¬ N < p.m_effects.data.length) :
    ∃ f, (MfxProxyPlugin.onEffect B.ndebug N method result).run p = (p, .error f) ∧ f.fatal = true := by
  have hpast : p.OfxPluginMainEntry B.ndebug N =
      cassert B.ndebug (N < p.m_effects.data.length) >>= fun _ => .error .undefined := by
    rw [MfxProxyPlugin.OfxPluginMainEntry, List.getElem?_eq_none (by omega)]
    rfl
  have hends : ∃ f, p.OfxPluginMainEntry B.ndebug N = .error f ∧ f.fatal = true := by
    rw [hpast]
    cases hnd : B.ndebug with
    | true =>
      rw [cassert, if_pos (Or.inl rfl)]
      exact ⟨.undefined, rfl, rfl⟩
    | false =>
      rw [cassert, if_neg (by simp [hN])]
      exact ⟨.assert, rfl, rfl⟩
  obtain ⟨f, hf, hfatal⟩ := hends
  refine ⟨f, ?_, hfatal⟩
  unfold MfxProxyPlugin.onEffect
  rw [Prog.run_get_bind, hf, Prog.run_lift_error_bind]

/-- What a method leaves. -/
theorem loaded_modify {N : ℕ} {method : MfxProxyEffect → MfxProxyEffect} (hp : Loaded p)
    (hid : ∀ e, (method e).m_effect_id = e.m_effect_id) :
    Loaded { p with m_effects := p.m_effects.modify N method } := by
  obtain ⟨hmain, hset, hids, hlen⟩ := hp
  refine ⟨hmain, hset, fun i e he => ?_, ?_⟩
  · have he : (p.m_effects.data.modify N method)[i]? = some e := he
    rw [List.getElem?_modify] at he
    obtain ⟨e', he', rfl⟩ := Option.map_eq_some_iff.1 he
    split
    · rw [hid, hids i e' he']
    · exact hids i e' he'
  · show (p.m_effects.data.modify N method).length ≤ max
    rw [List.length_modify]
    exact hlen

theorem call_StaticOfxPluginSetHost {N : Fin max} {host : Option Addr} :
    call B api (.StaticOfxPluginSetHost N host) = (fun _ => ExportReply.nothing) <$>
      onPlugin (MfxProxyPlugin.onEffect B.ndebug N (·.SetHost host) (.ok ())) := rfl

theorem call_StaticOfxPluginMainEntry {N : Fin max} {env : MainEntryEnv} :
    call B api (.StaticOfxPluginMainEntry N env) = ExportReply.status <$>
      onPlugin (MfxProxyPlugin.onEffect B.ndebug N (·.MainEntry env) env.result) := rfl

/-- Through an entry of the table, whichever of its functions is called. -/
theorem refines_effect {α : Type} (hx : Ready api x) {c : ExportCall max} {N : ℕ}
    {method : MfxProxyEffect → MfxProxyEffect} {result : Except Fault α} {reply : α → ExportReply} {ends : Bool}
    (hid : ∀ e, (method e).m_effect_id = e.m_effect_id)
    (hends : (ends = true ∧ ∃ f, result = .error f ∧ f.fatal = true) ∨
      (ends = false ∧ ∀ f, result = .error f → f.fatal = false))
    (hstep : Contract.step B x.contract c = if N < x.contract.effects ∧ ends = false then some x.contract else none)
    (hcall : call B api c = reply <$> onPlugin (MfxProxyPlugin.onEffect B.ndebug N method result)) :
    Refines B api x c := by
  cases hg : x.g_MfxProxyPlugin with
  | none =>
    refine refines_query hx hstep (fun h => ?_) fun _ => ⟨.undefined, ?_, rfl⟩
    · simp [contract, hg] at h
    · rw [hcall, Prog.run_map, run_onPlugin_none hg]
      rfl
  | some p =>
    have heffects : x.contract.effects = p.m_effects.data.length := by simp [contract, hg]
    by_cases hN : N < p.m_effects.data.length
    · have hrun : (call B api c).run x =
          (⟨some { p with m_effects := p.m_effects.modify N method }⟩, result.map reply) := by
        rw [hcall, Prog.run_map, run_onPlugin_some hg, run_onEffect hN]
      rcases hends with ⟨hends, f, rfl, hfatal⟩ | ⟨hends, hgoes⟩
      · -- the action of the effect ends the process
        have hnone : step B api x c = none := by
          unfold step
          rw [hrun]
          exact if_pos hfatal
        refine ⟨?_, fun y hy => ?_⟩
        · rw [hnone, hstep, if_neg (by simp [hends])]
          rfl
        · rw [hnone] at hy
          cases hy
      · have hsome : step B api x c = some ⟨some { p with m_effects := p.m_effects.modify N method }⟩ := by
          unfold step
          rw [hrun]
          cases result with
          | ok a => rfl
          | error f =>
            show (if f.fatal = true then none else some _) = _
            rw [hgoes f rfl, if_neg nofun]
        refine ⟨?_, fun y hy => ?_⟩
        · rw [hsome, hstep, if_pos ⟨by rw [heffects]; exact hN, hends⟩]
          simp [contract, hg, EffectVector.modify]
        · rw [hsome] at hy
          cases hy
          refine ⟨?_, ?_⟩
          · rintro q hq
            cases hq
            exact loaded_modify (hx.loaded p hg) hid
          · rintro q hq hunbound
            cases hq
            -- before the first bind there are no effects
            have hnone := (hx.fresh p hg hunbound).effects
            rw [hnone] at hN
            cases hN
    · obtain ⟨f, hpast, hfatal⟩ : ∃ f, (MfxProxyPlugin.onEffect B.ndebug N method result).run p = (p, .error f) ∧
          f.fatal = true := run_onEffect_past hN
      have hnone : step B api x c = none := by
        unfold step
        rw [hcall, Prog.run_map, run_onPlugin_some hg, hpast]
        exact if_pos hfatal
      refine ⟨?_, fun y hy => ?_⟩
      · rw [hnone, hstep, if_neg (by rw [heffects]; exact fun h => hN h.1)]
        rfl
      · rw [hnone] at hy
        cases hy

/-- **One call.** -/
theorem step_refines (hx : Ready api x) (c : ExportCall max) : Refines B api x c := by
  cases c with
  | OfxSetHost host env => exact refines_OfxSetHost hx host
  | OfxSetBundleDirectory path env => exact refines_OfxSetBundleDirectory hx path env
  | OfxGetNumberOfPlugins => exact refines_OfxGetNumberOfPlugins hx
  | OfxGetPlugin nth => exact refines_OfxGetPlugin hx nth
  | StaticOfxPluginSetHost N host =>
    have hstep : Contract.step B x.contract (.StaticOfxPluginSetHost N host) =
        if (N : ℕ) < x.contract.effects ∧ false = false then some x.contract else none := by simp [Contract.step]
    have hid : ∀ e : MfxProxyEffect, (e.SetHost host).m_effect_id = e.m_effect_id := fun _ => rfl
    refine refines_effect hx hid (Or.inr ⟨rfl, ?_⟩) hstep call_StaticOfxPluginSetHost
    rintro f ⟨⟩
  | StaticOfxPluginMainEntry N env =>
    have hid : ∀ e : MfxProxyEffect, (e.MainEntry env).m_effect_id = e.m_effect_id := fun _ => rfl
    refine refines_effect hx hid ?_ rfl call_StaticOfxPluginMainEntry
    unfold MainEntryEnv.ends
    cases env.result with
    | ok status => exact Or.inr ⟨rfl, nofun⟩
    | error f =>
      cases hfatal : f.fatal with
      | true => exact Or.inl ⟨hfatal, f, rfl, hfatal⟩
      | false =>
        refine Or.inr ⟨hfatal, ?_⟩
        rintro _ ⟨⟩
        exact hfatal

/-! ## After the first bind -/

/-- What the host of the library holds on to. -/
structure Settled (p q : MfxProxyPlugin max) : Prop where
  broker : q.m_broker = p.m_broker
  entries : q.ofx_plugins = p.ofx_plugins
  effects : q.m_effects.data.map MfxProxyEffect.kept = p.m_effects.data.map MfxProxyEffect.kept

theorem Settled.trans {p₁ p₂ p₃ : MfxProxyPlugin max} (h : Settled p₁ p₂) (h' : Settled p₂ p₃) : Settled p₁ p₃ :=
  ⟨h'.broker.trans h.broker, h'.entries.trans h.entries, h'.effects.trans h.effects⟩

/-- One call after another. -/
theorem exec_refines (hx : Ready api x) (calls : List (ExportCall max)) :
    (exec (step B api) x calls).map contract = exec (Contract.step B) x.contract calls :=
  exec_map (fun _ c _ hx hy => (step_refines hx c).2 _ hy) (fun _ c hx => (step_refines hx c).1) hx

end Exports

/-! ## Compiled with the assertions -/

/-- The call sets a bundle directory. -/
def ExportCall.isBundleDirectory : ExportCall max → Bool
  | .OfxSetBundleDirectory _ _ => true
  | _ => false

namespace Contract

variable {u v : Contract}

/-- With the assertions on, a bundle directory that is set is set while none is. -/
theorem step_bundleDirectory (hnd : B.ndebug = false) {path : Option CStr}
    (h : Contract.step B u (.OfxSetBundleDirectory path env : ExportCall max) = some v) :
    u.bound = false ∧ v.bound = true := by
  have hfailed : ∀ w : Contract, w.failed B = none := fun w => by simp [failed, hnd]
  simp only [step, hfailed] at h
  split at h
  · cases h
  · rename_i hunset
    refine ⟨by simp_all, ?_⟩
    simp only [setUp, hfailed] at h
    split at h
    · cases h
    · split at h
      · cases h
        rfl
      · split at h
        · cases h
        · split at h
          · cases h
            rfl
          · cases h

/-- No other call does. -/
theorem step_bound {c : ExportCall max} (hc : c.isBundleDirectory = false) (h : Contract.step B u c = some v) :
    v.bound = u.bound := by
  cases c with
  | OfxSetBundleDirectory path env => cases hc
  | OfxSetHost host env =>
    cases h
    rfl
  | OfxGetNumberOfPlugins | OfxGetPlugin _ | StaticOfxPluginSetHost _ _ | StaticOfxPluginMainEntry _ _ =>
    simp only [step] at h
    split at h
    · cases h
      rfl
    · cases h

/-- The directories set are counted by `bound`. -/
theorem exec_bound (hnd : B.ndebug = false) : ∀ (calls : List (ExportCall max)) (u : Contract),
    exec (Contract.step B) u calls = some v →
      calls.countP ExportCall.isBundleDirectory + u.bound.toNat = v.bound.toNat := by
  intro calls
  induction calls with
  | nil =>
    intro u h
    cases h
    simp
  | cons c calls ih =>
    intro u h
    obtain ⟨w, hw, hv⟩ := exec_cons.1 h
    have hrest := ih w hv
    rw [List.countP_cons]
    cases hc : c.isBundleDirectory with
    | true =>
      cases c with
      | OfxSetBundleDirectory path env =>
        obtain ⟨hu, hbound⟩ := step_bundleDirectory hnd hw
        rw [hbound] at hrest
        rw [hu]
        simp at hrest ⊢
        omega
      | _ => cases hc
    | false =>
      rw [← step_bound hc hw]
      simpa using hrest

end Contract

/-! ## Whole sessions -/

/-- **At most one bundle directory.** Compiled with its assertions, the library survives a
session only if it sets at most one bundle directory, and the first socket is bound exactly if one
was set. -/
theorem bundleDirectory_once (hnd : B.ndebug = false) {calls : List (ExportCall max)} {x : Exports max}
    (hx : exec (Exports.step B api) {} calls = some x) :
    calls.countP ExportCall.isBundleDirectory = x.contract.bound.toNat := by
  have hcontract := Exports.exec_refines (B := B) (Exports.ready_empty : Exports.Ready api {}) calls
  rw [hx] at hcontract
  simpa using Contract.exec_bound hnd calls {} hcontract.symm

/-- The calls of a host that sets its directory, then works with an entry, and sets another host. -/
def hostSession : List (ExportCall 4) :=
  [.OfxSetHost none (.good none), .OfxSetBundleDirectory (some (c_str "/effects")) (.good (some (catalogue ["blur"])))]

theorem bundleDirectory_once_hostSession :
    let x := exec (Exports.step .reference .reference) {} hostSession
    ∃ h : x.isSome, hostSession.countP ExportCall.isBundleDirectory = (x.get h).contract.bound.toNat :=
  ⟨by decide +kernel, bundleDirectory_once rfl (Option.some_get _).symm⟩

end MfxProxy
