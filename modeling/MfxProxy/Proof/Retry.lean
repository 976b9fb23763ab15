import MfxProxy.Lib.Exec
import MfxProxy.Proof.Startup

/-!
# Trying `OfxSetHost` again

A failed call leaves behind the sockets that it has bound. Of the places where a call can
fail only those before the first bind allow another try: once a call has bound the PUB
socket, all later calls fail there.

* `failStep_untouched`, `failStep_binds`: the two kinds of failed calls.
* `retry_iff`: when a call succeeds after failed ones.
-/

namespace MfxProxy

open Lib

variable {max : ℕ} {B : Build} {api : PluginApi} {s t : MfxProxyPlugin max} {c : SetHostCall}

/-- A call that returns `kOfxStatFailed`. -/
def failStep (B : Build) (s : MfxProxyPlugin max) (c : SetHostCall) : Option (MfxProxyPlugin max) :=
  match (MfxProxyPlugin.OfxSetHost B c.host c.bundle_dir c.env).run s with
  | (t, .ok status) => if status = kOfxStatFailed then some t else none
  | (_, .error _) => none

/-- The call does not get past the bind of the PUB socket. -/
def SetHostCall.BindsNothing (c : SetHostCall) : Prop := c.bundle_dir = none ∨ c.env.bind_pub = false

/-- The plugin as it was made, but for the two members that each call sets first. -/
def Untouched (api : PluginApi) (s : MfxProxyPlugin max) : Prop :=
  ∃ host dir,
    s = { (MfxProxyPlugin.create api : MfxProxyPlugin max) with m_ofx_host := host, m_bundle_directory := dir }

theorem failStep_eq_some : failStep B s c = some t ↔
    (MfxProxyPlugin.OfxSetHost B c.host c.bundle_dir c.env).run s = (t, .ok kOfxStatFailed) := by
  unfold failStep
  rcases (MfxProxyPlugin.OfxSetHost B c.host c.bundle_dir c.env).run s with ⟨u, f | status⟩
  · simp
  · by_cases hstatus : status = kOfxStatFailed
    · subst hstatus
      simp
    · simp [hstatus]

/-! ## Calls that fail before the first bind -/

/-- The bind of the PUB socket fails, and nothing has been bound. -/
theorem setup_sockets_unbound {env : SetHostEnv} (hpub : env.bind_pub = false) :
    (MfxProxyPlugin.setup_sockets env).run s = (s, .error .error_t) := by
  simp [MfxProxyPlugin.setup_sockets, hpub]

theorem failStep_untouched (hs : Untouched api s) (hc : c.BindsNothing) (hstep : failStep B s c = some t) :
    Untouched api t := by
  obtain ⟨host, dir, rfl⟩ := hs
  have hrun := failStep_eq_some.1 hstep
  cases hdir : c.bundle_dir with
  | none =>
    rw [hdir] at hrun
    cases hrun
    exact ⟨c.host, dir, rfl⟩
  | some path =>
    have hpub : c.env.bind_pub = false := hc.resolve_left (by simp [hdir])
    rw [hdir, MfxProxyPlugin.OfxSetHost, Prog.run_modify_bind, Prog.run_modify_bind, Prog.run_attempt_bind,
      setup_sockets_unbound hpub] at hrun
    cases hrun
    exact ⟨c.host, path.str, rfl⟩

/-! ## Calls that get past it -/

/-- The PUB socket is bound, whatever fails after it. -/
theorem setup_sockets_binds {env : SetHostEnv} (hpub : env.bind_pub = true) :
    Prog.Triple (fun _ : MfxProxyPlugin max => True) (MfxProxyPlugin.setup_sockets env)
      (fun _ s => s.m_broker.pub_bound = true) (fun _ s => s.m_broker.pub_bound = true) := by
  refine setup_sockets_triple (fun s _ hbound => ?_) ?_
  · simpa [hpub] using hbound
  · rintro s t - ⟨sub, pair, rfl⟩
    exact ⟨rfl, rfl⟩

/-- A call that gets past the first bind and fails leaves the PUB socket bound. -/
theorem OfxSetHost_binds {env : SetHostEnv} (host : Option Addr) (dir : CStr) (hpub : env.bind_pub = true) :
    Prog.Triple (fun _ : MfxProxyPlugin max => True) (MfxProxyPlugin.OfxSetHost B host (some dir) env)
      (fun status s => status = kOfxStatFailed → s.m_broker.pub_bound = true) (fun _ _ => True) := by
  refine Prog.Triple.bind (Q := fun _ _ => True) (Prog.triple_modify fun _ _ => trivial) fun _ => ?_
  refine Prog.Triple.bind (Q := fun _ _ => True) (Prog.triple_modify fun _ _ => trivial) fun _ => ?_
  refine Prog.Triple.attempt_bind (setup_sockets_binds hpub) (fun _ => ?_) fun _ => Prog.triple_pure fun _ h _ => h
  have hstart : Prog.Triple (fun s : MfxProxyPlugin max => s.m_broker.pub_bound = true) MfxProxyPlugin.start_thread
      (fun _ s => s.m_broker.pub_bound = true) (fun _ _ => True) :=
    start_thread_triple (fun _ h _ => h) fun _ _ _ => trivial
  refine hstart.bind fun _ => ?_
  -- every early return from here on leaves the socket bound
  refine Prog.triple_ite (fun _ => Prog.triple_pure fun _ h _ => h) fun _ => ?_
  refine Prog.triple_ite (fun _ => Prog.triple_pure fun _ h _ => h) fun _ => ?_
  refine Prog.triple_ite (fun _ => Prog.triple_pure fun _ h _ => h) fun _ => ?_
  refine Prog.triple_ite (fun _ => Prog.triple_throw fun _ _ => trivial) fun _ => ?_
  have hdefinition : Prog.Triple (fun s : MfxProxyPlugin max => s.m_broker.pub_bound = true)
      (MfxProxyPlugin.get_plugin_definition env) (fun _ s => s.m_broker.pub_bound = true) (fun _ _ => True) :=
    get_plugin_definition_triple fun _ h => h
  refine hdefinition.bind fun r => ?_
  cases r with
  | none => exact Prog.triple_pure fun _ h _ => h
  | some d =>
    -- after the defining loop the call does not fail
    have hany : Prog.Triple (fun s : MfxProxyPlugin max => s.m_broker.pub_bound = true)
        (MfxProxyPlugin.defineEffects B d) (fun _ _ => True) (fun _ _ => True) := by
      intro s _
      split <;> trivial
    refine hany.bind fun _ => Prog.triple_pure fun _ _ h => ?_
    cases h

theorem failStep_binds (hc : ¬ c.BindsNothing) (hstep : failStep B s c = some t) : t.m_broker.pub_bound = true := by
  obtain ⟨hdir, hpub⟩ := not_or.1 hc
  obtain ⟨dir, hdir⟩ := Option.ne_none_iff_exists'.1 hdir
  have hrun := failStep_eq_some.1 hstep
  rw [hdir] at hrun
  exact (OfxSetHost_binds c.host dir (by simpa using hpub)).of_ok trivial hrun rfl

/-- What is bound stays bound. -/
theorem failStep_bound (hs : s.m_broker.pub_bound = true) (hstep : failStep B s c = some t) :
    t.m_broker.pub_bound = true := by
  obtain ⟨host, dir, hrun⟩ := OfxSetHost_bound B c.env c.host c.bundle_dir hs
  rw [failStep_eq_some.1 hstep] at hrun
  cases hrun
  exact hs

/-! ## After failed calls -/

/-- **When `OfxSetHost` can be tried again.**

Take a call that succeeds on a new plugin. After any calls that have failed, it succeeds and
defines the same effects and table entries exactly when each of these had no bundle
directory or could not bind the PUB socket. -/
theorem retry_iff (B : Build) (api : PluginApi) (earlier : List SetHostCall) (c : SetHostCall)
    {s t₀ : MfxProxyPlugin max} (hearlier : exec (failStep B) (.create api) earlier = some s)
    (hgood : (MfxProxyPlugin.OfxSetHost B c.host c.bundle_dir c.env).run (.create api) = (t₀, .ok kOfxStatOK)) :
    (∃ t, (MfxProxyPlugin.OfxSetHost B c.host c.bundle_dir c.env).run s = (t, .ok kOfxStatOK) ∧
      t.m_effects = t₀.m_effects ∧ t.ofx_plugins = t₀.ofx_plugins) ↔ ∀ e ∈ earlier, e.BindsNothing := by
  constructor
  · rintro ⟨t, hrun, -⟩ e he
    by_contra hbinds
    -- the call `e` leaves the socket bound, and so do those after it
    obtain ⟨first, later, rfl⟩ := List.append_of_mem he
    obtain ⟨s₁, -, hrest⟩ := exec_append.1 hearlier
    obtain ⟨s₂, hstep, hlater⟩ := exec_cons.1 hrest
    have hbound₂ := failStep_binds hbinds hstep
    have hbound : s.m_broker.pub_bound = true :=
      exec_inv (I := fun s => s.m_broker.pub_bound = true) (fun _ _ _ => failStep_bound) hbound₂ hlater
    obtain ⟨host, dir, hfails⟩ := OfxSetHost_bound B c.env c.host c.bundle_dir hbound
    rw [hrun] at hfails
    cases hfails
  · intro hall
    have hcreate : Untouched api (MfxProxyPlugin.create api : MfxProxyPlugin max) := ⟨none, "", rfl⟩
    obtain ⟨host, dir, rfl⟩ := exec_inv_of (C := fun _ e => e.BindsNothing) (fun _ _ _ => failStep_untouched) hcreate
      ((allSteps_label hearlier).2 hall) hearlier
    refine ⟨t₀, ?_, rfl, rfl⟩
    cases hdir : c.bundle_dir with
    | none =>
      rw [hdir] at hgood
      cases hgood
    | some path =>
      rw [hdir] at hgood
      exact hgood

/-- The first call has no bundle directory; the second one succeeds. -/
theorem retry_without_directory :
    ∃ s t₀ t : MfxProxyPlugin 4, exec (failStep .reference) (.create .reference) [⟨none, none, .good none⟩] = some s ∧
      (MfxProxyPlugin.OfxSetHost .reference none (some (c_str "/effects"))
        (.good (some (catalogue ["blur", "twist"])))).run s = (t, .ok kOfxStatOK) ∧
      t.m_effects = t₀.m_effects ∧ t₀.m_effects.data.length = 2 := by
  have hearlier : (exec (failStep .reference) (.create .reference : MfxProxyPlugin 4)
      [⟨none, none, .good none⟩]).isSome = true := by decide +kernel
  obtain ⟨t₀, hgood, htwo⟩ : ∃ t₀ : MfxProxyPlugin 4,
      (MfxProxyPlugin.OfxSetHost .reference none (some (c_str "/effects"))
      (.good (some (catalogue ["blur", "twist"])))).run (.create .reference) = (t₀, .ok kOfxStatOK) ∧
      t₀.m_effects.data.length = 2 := ⟨_, rfl, by decide +kernel⟩
  obtain ⟨t, hrun, heffects, -⟩ := (retry_iff .reference .reference [⟨none, none, .good none⟩]
    ⟨none, some (c_str "/effects"), .good (some (catalogue ["blur", "twist"]))⟩ (Option.some_get hearlier).symm hgood).2
    (by simp [SetHostCall.BindsNothing])
  exact ⟨_, t₀, t, (Option.some_get hearlier).symm, hrun, heffects, htwo⟩

/-- The config file is missing in the first call, and the second one fails as well, though it
would have succeeded on a new plugin. -/
theorem retry_after_config_fails :
    ∃ s : MfxProxyPlugin 4, exec (failStep .reference) (.create .reference)
        [⟨none, some (c_str "/efects"), { SetHostEnv.good none with config_exists := false }⟩] = some s ∧
      ((MfxProxyPlugin.OfxSetHost .reference none (some (c_str "/effects"))
        (.good (some (catalogue ["blur", "twist"])))).run s).2 = .ok kOfxStatFailed ∧
      ((MfxProxyPlugin.OfxSetHost .reference none (some (c_str "/effects"))
        (.good (some (catalogue ["blur", "twist"])))).run (.create .reference : MfxProxyPlugin 4)).2 =
          .ok kOfxStatOK := by
  have hearlier : (exec (failStep .reference) (.create .reference : MfxProxyPlugin 4)
      [⟨none, some (c_str "/efects"), { SetHostEnv.good none with config_exists := false }⟩]).isSome = true := by
    decide +kernel
  exact ⟨_, (Option.some_get hearlier).symm, by rfl, by rfl⟩

end MfxProxy
