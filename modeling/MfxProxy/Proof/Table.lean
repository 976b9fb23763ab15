import MfxProxy.Proof.Startup

/-!
# The exported table and the effects after the first defining loop

What the first call of `OfxSetHost` that reaches its loop leaves behind, on a
definition of `n` plugins that says so.

* `FirstReach.defined`, `FirstReach.overflows`: the loop up to `max` plugins, and above.
* `table_safe_iff`: the table is written in bounds and the exported count agrees with it
  exactly for `n ≤ max`; the cap of the loop lets the index `max` through.
* `effects_named_iff`: the effects have their names exactly when none with a name has
  been relocated since it was named.
-/

namespace MfxProxy

open Lib

variable {max : ℕ} {B : Build} {api : PluginApi} {earlier : List SetHostCall} {c : SetHostCall}
  {s t : MfxProxyPlugin max} {r : Except Fault OfxStatus} {d : BrokerPluginBundleDefinition}

/-! ## How the first loop ends -/

/-- The call as the rounds of its loop. -/
theorem FirstReach.rounds (h : FirstReach B api earlier c s t r) (henv : c.env.definition = some d)
    (hd : Sized d) : ∃ s₀, Started (gOfxPlugins api max) s₀ ∧
      (Prog.forEach (MfxProxyPlugin.defineEffect B d) (List.range d.plugins.length) >>= fun _ => pure kOfxStatOK).run
        (loopEntry s₀) = (t, r) := by
  obtain ⟨d', s₀, hd', hs₀, hrun⟩ := h.loop
  rw [henv] at hd'
  cases hd'
  refine ⟨s₀, hs₀, ?_⟩
  rw [← hrun, Prog.run_bind, Prog.run_bind, defineEffects_sized hd]

/-- Up to `max` plugins, with no assertion failing, the call succeeds. -/
theorem FirstReach.defined (h : FirstReach B api earlier c s t r) (henv : c.env.definition = some d)
    (hd : Sized d) (hn : d.plugins.length ≤ max) (hab : ¬ Aborts B d d.plugins.length) :
    r = .ok kOfxStatOK ∧ ∃ s₀, Started (gOfxPlugins api max) s₀ ∧
      Defined B d (loopEntry s₀) d.plugins.length t := by
  obtain ⟨s₀, hs₀, hrun⟩ := h.rounds henv hd
  obtain ⟨t', ht', hD⟩ := rounds_ok (s := loopEntry s₀) hn le_rfl hab hs₀.effects
  rw [Prog.run_bind_ok ht'] at hrun
  cases hrun
  exact ⟨rfl, s₀, hs₀, hD⟩

theorem FirstReach.aborts (h : FirstReach B api earlier c s t r) (henv : c.env.definition = some d)
    (hd : Sized d) (hn : d.plugins.length ≤ max) (hab : Aborts B d d.plugins.length) : r = .error .assert := by
  obtain ⟨s₀, hs₀, hrun⟩ := h.rounds henv hd
  obtain ⟨t', ht'⟩ := rounds_abort (s := loopEntry s₀) le_rfl le_rfl (by omega) hab hs₀.effects
  rw [Prog.run_bind_error ht'] at hrun
  cases hrun
  rfl

/-- **Above `max` plugins the call stores past the end of the table**, unless an
assertion on an id has stopped it. -/
theorem FirstReach.overflows (h : FirstReach B api earlier c s t r) (henv : c.env.definition = some d)
    (hd : Sized d) (hn : max < d.plugins.length) :
    (r = .error .undefined ∧ max ∈ t.stores) ∨ (r = .error .assert ∧ Aborts B d (max + 1)) := by
  obtain ⟨s₀, hs₀, hrun⟩ := h.rounds henv hd
  -- the round that oversteps is the one at `max`, if an assertion does not stop it first
  by_cases hab : Aborts B d (max + 1)
  · obtain ⟨t', ht'⟩ := rounds_abort (s := loopEntry s₀) le_rfl hn le_rfl hab hs₀.effects
    rw [Prog.run_bind_error ht'] at hrun
    cases hrun
    exact Or.inr ⟨rfl, hab⟩
  · obtain ⟨t', ht', hmem⟩ := rounds_overflow (s := loopEntry s₀) hn rfl hab hs₀.effects
    rw [Prog.run_bind_error ht'] at hrun
    cases hrun
    exact Or.inl ⟨rfl, hmem⟩

/-! ## The exported count and the table -/

theorem getNumberOfPlugins_defined {s₀ : MfxProxyPlugin max} {k : ℕ} (h : Defined B d s₀ k t) (hk : k < 2 ^ 31) :
    t.OfxGetNumberOfPlugins.toInt = k := by
  rw [MfxProxyPlugin.OfxGetNumberOfPlugins, h.length]
  exact Int32.toInt_ofNat_of_lt hk

/-- Below the maximum `OfxGetPlugin` returns an entry of the table. -/
theorem OfxGetPlugin_entry {ndebug : Bool} {k : Int32} (hk : 0 ≤ k.toInt) (hmax : k.toInt < max) :
    ∃ entry, MfxProxyPlugin.OfxGetPlugin ndebug t k = .ok (some entry) ∧
      t.ofx_plugins[k.toInt.toNat]? = some entry := by
  obtain ⟨i, hi⟩ := Int.eq_ofNat_of_zero_le hk
  have himax : i < max := by omega
  refine ⟨t.ofx_plugins[i], ?_, ?_⟩
  · rw [MfxProxyPlugin.OfxGetPlugin, if_pos hmax, hi]
    simp [deref, Vector.getElem?_eq_getElem himax, Except.map]
  · rw [hi]
    simp [Vector.getElem?_eq_getElem himax]

/-- **The table after the first defining loop.**

On a definition of `n` plugins the call stores inside the table only, returns, exports
`min n max` effects, and each of them has an entry that `OfxGetPlugin` returns, exactly
when `n` is at most `max` and no assertion on an id fails. -/
theorem table_safe_iff (h : FirstReach B api earlier c s t r) (henv : c.env.definition = some d) (hd : Sized d) :
    ((∀ j ∈ t.stores, j < max) ∧ r = .ok kOfxStatOK ∧
      t.OfxGetNumberOfPlugins.toInt = min d.plugins.length max ∧
      ∀ k : Int32, 0 ≤ k.toInt → k.toInt < t.OfxGetNumberOfPlugins.toInt →
        ∃ entry, MfxProxyPlugin.OfxGetPlugin B.ndebug t k = .ok (some entry) ∧
          t.ofx_plugins[k.toInt.toNat]? = some entry) ↔
    d.plugins.length ≤ max ∧ ¬ Aborts B d d.plugins.length := by
  constructor
  -- that the call returns is enough: what goes wrong ends it with a fault
  · rintro ⟨-, hr, -⟩
    by_contra hcond
    rcases Nat.lt_or_ge max d.plugins.length with hlt | hle
    · rcases h.overflows henv hd hlt with ⟨hr', -⟩ | ⟨hr', -⟩ <;> rw [hr] at hr' <;> cases hr'
    · have hab : Aborts B d d.plugins.length := by
        by_contra hab
        exact hcond ⟨hle, hab⟩
      rw [h.aborts henv hd hle hab] at hr
      cases hr
  · rintro ⟨hle, hab⟩
    obtain ⟨hr, s₀, hs₀, hD⟩ := h.defined henv hd hle hab
    have hlt := d.number_of_plugins.toInt_lt
    have hsize : d.number_of_plugins.toInt = d.plugins.length := hd
    have hcount : t.OfxGetNumberOfPlugins.toInt = d.plugins.length := getNumberOfPlugins_defined hD (by omega)
    refine ⟨?_, hr, ?_, ?_⟩
    · intro j hj
      rw [hD.stores, show (loopEntry s₀).stores = [] from hs₀.stores, List.nil_append, List.mem_range] at hj
      omega
    · rw [hcount]
      omega
    · intro k hk hkn
      exact OfxGetPlugin_entry hk (by omega)

/-- A first call, with everything in place, on a definition with these identifiers. -/
def callWith (identifiers : List String) : SetHostCall where
  host := none
  bundle_dir := some (c_str "/effects")
  env := .good (some (catalogue identifiers))

/-- The plugin after the call as its first one, and how the call ended. -/
def afterCall (max : ℕ) (c : SetHostCall) : MfxProxyPlugin max × Except Fault OfxStatus :=
  (MfxProxyPlugin.OfxSetHost .reference c.host c.bundle_dir c.env).run (.create .reference)

theorem firstReach_afterCall (max : ℕ) (c : SetHostCall) (h : (afterCall max c).1.loop_starts ≠ []) :
    FirstReach .reference .reference [] c (.create .reference) (afterCall max c).1 (afterCall max c).2 :=
  ⟨rfl, rfl, rfl, h⟩

theorem table_safe_two :
    let t := (afterCall 2 (callWith ["blur", "twist"])).1
    (∀ j ∈ t.stores, j < 2) ∧ t.OfxGetNumberOfPlugins.toInt = 2 := by
  have hfirst := firstReach_afterCall 2 (callWith ["blur", "twist"]) (by decide)
  have hd : Sized (catalogue ["blur", "twist"]) := rfl
  have h := (table_safe_iff hfirst rfl hd).2 ⟨by decide, by decide⟩
  exact ⟨h.1, h.2.2.1⟩

/-- Three effects and two entries. -/
theorem table_overflows_three :
    FirstReach .reference .reference [] (callWith ["blur", "twist", "smooth"]) (.create .reference)
      (afterCall 2 (callWith ["blur", "twist", "smooth"])).1 (afterCall 2 (callWith ["blur", "twist", "smooth"])).2 ∧
    Sized (catalogue ["blur", "twist", "smooth"]) ∧
    ¬ ∀ j ∈ (afterCall 2 (callWith ["blur", "twist", "smooth"])).1.stores, j < 2 :=
  ⟨firstReach_afterCall _ _ (by decide), rfl, by decide⟩

/-! ## The names of the effects -/

/-- The name an effect has in the end, compared with the one it was given. -/
theorem getName_effectAfter {n i : ℕ} {p : BrokerPluginDefinition} :
    (effectAfter B n i p).GetName.str = p.identifier ↔
      '\x00' ∉ p.identifier.toList ∧ (p.identifier = "" ∨ ¬ relocatedBy B.growth i n) := by
  unfold MfxProxyEffect.GetName effectAfter
  -- a relocated effect is called `""`, whatever it was named
  by_cases hrel : relocatedBy B.growth i n
  · simp only [hrel, if_true, not_true, or_false]
    constructor
    · intro h
      have hempty : p.identifier = "" := h.symm
      rw [hempty]
      exact ⟨by simp, rfl⟩
    · rintro ⟨-, h⟩
      rw [h]
      rfl
  · simp only [hrel, if_false, not_false_eq_true, or_true, and_true, c_str_str]
    exact str_c_str

/-- **The effects after the first defining loop.**

On a definition of `n ≤ max` plugins, and for any capacity policy of the vector, the call
returns with every effect `i` having id `i`, the plugin's broker and its identifier for a
name, exactly when no assertion on an id fails, no identifier holds a zero byte, and no
effect with a non-empty identifier has been relocated after it was named. -/
theorem effects_named_iff (h : FirstReach B api earlier c s t r) (henv : c.env.definition = some d) (hd : Sized d)
    (hn : d.plugins.length ≤ max) :
    (r = .ok kOfxStatOK ∧ ∀ (i : ℕ) (p : BrokerPluginDefinition), d.plugins[i]? = some p →
      ∃ e : MfxProxyEffect, t.m_effects.data[i]? = some e ∧
        e.m_effect_id.toNat = i ∧ e.m_broker = B.broker ∧ e.GetName.str = p.identifier) ↔
    ¬ Aborts B d d.plugins.length ∧ ∀ (i : ℕ) (p : BrokerPluginDefinition), d.plugins[i]? = some p →
      '\x00' ∉ p.identifier.toList ∧ (p.identifier = "" ∨ ¬ relocatedBy B.growth i d.plugins.length) := by
  constructor
  · rintro ⟨hr, heffects⟩
    -- the call returns, so no assertion has failed
    have hab : ¬ Aborts B d d.plugins.length := by
      intro hab
      rw [h.aborts henv hd hn hab] at hr
      cases hr
    obtain ⟨-, s₀, -, hD⟩ := h.defined henv hd hn hab
    refine ⟨hab, fun i p hp => ?_⟩
    obtain ⟨e, he, -, -, hname⟩ := heffects i p hp
    rw [hD.effects i p hp (List.getElem?_eq_some_iff.1 hp).1] at he
    cases he
    exact getName_effectAfter.1 hname
  · rintro ⟨hab, hnames⟩
    obtain ⟨hr, s₀, -, hD⟩ := h.defined henv hd hn hab
    refine ⟨hr, fun i p hp => ?_⟩
    have hi := (List.getElem?_eq_some_iff.1 hp).1
    have hlt := d.number_of_plugins.toInt_lt
    have hsize : d.number_of_plugins.toInt = d.plugins.length := hd
    have hid : (UInt32.ofNat i).toNat = i := by
      simp only [UInt32.toNat_ofNat']
      omega
    exact ⟨_, hD.effects i p hp hi, hid, rfl, getName_effectAfter.2 (hnames i p hp)⟩

theorem effects_named_one : ∃ e : MfxProxyEffect,
    (afterCall 2 (callWith ["blur"])).1.m_effects.data[0]? = some e ∧ e.GetName.str = "blur" := by
  have hnames : ∀ (i : ℕ) (p : BrokerPluginDefinition), (catalogue ["blur"]).plugins[i]? = some p →
      '\x00' ∉ p.identifier.toList ∧ (p.identifier = "" ∨ ¬ relocatedBy Growth.doubling i 1) := by
    intro i p hp
    obtain rfl : i = 0 := Nat.lt_one_iff.1 (List.getElem?_eq_some_iff.1 hp).1
    cases hp
    decide
  have hfirst := firstReach_afterCall 2 (callWith ["blur"]) (by decide)
  have hd : Sized (catalogue ["blur"]) := rfl
  have h := (effects_named_iff hfirst rfl hd (by decide)).2 ⟨by decide, hnames⟩
  obtain ⟨e, he, -, -, hname⟩ := h.2 0 _ rfl
  exact ⟨e, he, hname⟩

/-- Two effects: adding the second relocates the first, which loses its name. -/
theorem effect_unnamed_two :
    FirstReach .reference .reference [] (callWith ["blur", "twist"]) (.create .reference)
      (afterCall 2 (callWith ["blur", "twist"])).1 (afterCall 2 (callWith ["blur", "twist"])).2 ∧
    Sized (catalogue ["blur", "twist"]) ∧
    ¬ ∃ e : MfxProxyEffect, (afterCall 2 (callWith ["blur", "twist"])).1.m_effects.data[0]? = some e ∧
      e.GetName.str = "blur" := by
  refine ⟨firstReach_afterCall _ _ (by decide), rfl, ?_⟩
  rintro ⟨e, he, hname⟩
  cases he
  exact absurd hname (by decide)

end MfxProxy
