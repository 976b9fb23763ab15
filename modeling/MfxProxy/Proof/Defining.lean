import MfxProxy.Spec.Plugin

/-!
# The defining loop of `OfxSetHost`

`Defined B d s₀ k s` says what the loop has done after `k` rounds from `s₀`, for any
capacity policy of the vector: the first `k` entries of the table are filled from the
definition, and effect `i` has id `i`, the plugin's broker, and its name as long as no
later growth relocated it.

* `defineEffect_ok`, `Defined.round`: one round.
* `rounds_triple`, `rounds_ok`: the loop, and how it can stop.
* `rounds_overflow`: with more plugins than entries the loop stores past the end of
  the table.
-/

namespace MfxProxy

open Lib

/-! ## The vector of effects -/

namespace EffectVector

variable {g : Growth} {v : EffectVector} {e : MfxProxyEffect} {c : CStr}

/-- The old elements after `emplace_back`. -/
def kept (v : EffectVector) : List MfxProxyEffect :=
  if v.data.length = v.capacity then v.data.map MfxProxyEffect.moveConstruct else v.data

@[simp] theorem kept_length : v.kept.length = v.data.length := by unfold kept; split <;> simp

theorem emplace_back_data : (v.emplace_back g e).data = v.kept ++ [e] := by
  unfold emplace_back kept; split <;> rfl

theorem emplace_back_capacity : (v.emplace_back g e).capacity =
    if v.data.length = v.capacity then g.next v.data.length else v.capacity := by
  unfold emplace_back; split <;> rfl

/-- Naming the element just added. -/
theorem setName_emplace_back : ∃ w, (v.emplace_back g e).setName v.data.length c = .ok w ∧
    w.data = v.kept ++ [e.SetName c] ∧ w.capacity = (v.emplace_back g e).capacity := by
  have hlen : v.data.length < (v.emplace_back g e).data.length := by simp [emplace_back_data]
  -- the index is that of the element behind the kept ones
  have hlast : (v.kept ++ [e]).modify v.data.length (·.SetName c) = v.kept ++ [e.SetName c] := by
    rw [← kept_length]
    exact List.modifyTailIdx_add (List.modifyHead (·.SetName c)) 0 v.kept [e]
  rw [setName, if_pos hlen]
  refine ⟨_, rfl, ?_, rfl⟩
  simp only [emplace_back_data, hlast]

end EffectVector

/-- The capacity of the vector before it gets its `k`-th element. -/
def capacityAt (g : Growth) : ℕ → ℕ
  | 0 => 0
  | k + 1 => if k = capacityAt g k then g.next k else capacityAt g k

/-- Some `emplace_back` after the one for `i`, and before there are `k` elements, finds
the vector full and relocates it. -/
def relocatedBy (g : Growth) (i k : ℕ) : Prop := ∃ j, j < k ∧ i < j ∧ capacityAt g j = j

instance (g : Growth) (i k : ℕ) : Decidable (relocatedBy g i k) :=
  inferInstanceAs (Decidable (∃ j, j < k ∧ i < j ∧ capacityAt g j = j))

theorem relocatedBy_succ {g : Growth} {i k : ℕ} (h : i < k) :
    relocatedBy g i (k + 1) ↔ relocatedBy g i k ∨ capacityAt g k = k := by
  constructor
  · rintro ⟨j, hjk, hij, hj⟩
    -- the growth is the last one, or an earlier one
    rcases Nat.eq_or_lt_of_le (Nat.le_of_lt_succ hjk) with rfl | hlt
    · exact Or.inr hj
    · exact Or.inl ⟨j, hlt, hij, hj⟩
  · rintro (⟨j, hjk, hij, hj⟩ | hk)
    · exact ⟨j, by omega, hij, hj⟩
    · exact ⟨k, by omega, h, hk⟩

/-! ## One round -/

variable {max : ℕ} {B : Build} {d : BrokerPluginBundleDefinition} {s t s₀ : MfxProxyPlugin max}

/-- A table entry filled from a plugin of the definition. -/
def filled (p : BrokerPluginDefinition) (entry : OfxPlugin) : OfxPlugin :=
  { entry with
    pluginVersionMajor := p.version_major.toUInt32
    pluginVersionMinor := p.version_minor.toUInt32
    pluginIdentifier := c_str p.identifier }

/-- What one round changes. -/
structure Round (B : Build) (i : ℕ) (hi : i < max) (p : BrokerPluginDefinition)
    (s t : MfxProxyPlugin max) : Prop where
  broker : t.m_broker = s.m_broker
  loop_starts : t.loop_starts = s.loop_starts
  stores : t.stores = s.stores ++ [i]
  entries : t.ofx_plugins = s.ofx_plugins.set i (filled p s.ofx_plugins[i])
  effects : t.m_effects.data = s.m_effects.kept ++
    [(MfxProxyEffect.create (Int32.ofNat i) B.broker).SetName (c_str p.identifier)]
  capacity : t.m_effects.capacity =
    if s.m_effects.data.length = s.m_effects.capacity then B.growth.next s.m_effects.data.length
    else s.m_effects.capacity

/-- **A round below the maximum, with its plugin there and its assertion met.** -/
theorem defineEffect_ok {i : ℕ} (hi : i < max) {p : BrokerPluginDefinition} (hp : d.plugins[i]? = some p)
    (hid : B.ndebug = true ∨ p.effect_id = Int32.ofNat i) (hlen : s.m_effects.data.length = i) :
    ∃ t, (MfxProxyPlugin.defineEffect B d i).run s = (t, .ok ()) ∧ Round B i hi p s t := by
  obtain ⟨w, hw, hdata, hcap⟩ := EffectVector.setName_emplace_back (g := B.growth) (v := s.m_effects)
    (e := .create (Int32.ofNat i) B.broker) (c := c_str p.identifier)
  rw [hlen] at hw
  have hassert : cassert B.ndebug (p.effect_id = Int32.ofNat i) = .ok () := by rw [cassert, if_pos hid]
  refine ⟨{ s with
      stores := s.stores ++ [i]
      ofx_plugins := s.ofx_plugins.set i (filled p s.ofx_plugins[i])
      m_effects := w }, ?_, rfl, rfl, rfl, rfl, hdata, ?_⟩
  · rw [MfxProxyPlugin.defineEffect, if_neg (by omega), hp]
    simp only [deref, Prog.run_lift_ok_bind, hassert]
    rw [MfxProxyPlugin.fill, dif_pos hi]
    simp only [bind_assoc, Prog.run_modify_bind, Prog.run_get_bind, hw, Prog.run_lift_ok_bind, Prog.run_modify]
    rfl
  · rw [hcap, EffectVector.emplace_back_capacity]

/-- At the maximum itself the round stores past the end of the table. -/
theorem defineEffect_overflow {p : BrokerPluginDefinition} (hp : d.plugins[max]? = some p)
    (hid : B.ndebug = true ∨ p.effect_id = Int32.ofNat max) :
    (MfxProxyPlugin.defineEffect B d max).run s =
      ({ s with stores := s.stores ++ [max] }, .error .undefined) := by
  have hassert : cassert B.ndebug (p.effect_id = Int32.ofNat max) = .ok () := by rw [cassert, if_pos hid]
  rw [MfxProxyPlugin.defineEffect, if_neg (by omega), hp]
  simp only [deref, Prog.run_lift_ok_bind, hassert]
  rw [MfxProxyPlugin.fill, dif_neg (by omega)]
  rfl

/-- An assertion that fails stops the round before it stores anything. -/
theorem defineEffect_assert {i : ℕ} (hi : i ≤ max) {p : BrokerPluginDefinition} (hp : d.plugins[i]? = some p)
    (hid : ¬ (B.ndebug = true ∨ p.effect_id = Int32.ofNat i)) :
    (MfxProxyPlugin.defineEffect B d i).run s = (s, .error .assert) := by
  rw [MfxProxyPlugin.defineEffect, if_neg (by omega), hp]
  simp only [deref, Prog.run_lift_ok_bind, cassert, if_neg hid]
  rfl

/-! ## The loop, round by round -/

/-- The assertion on the ids is compiled in, and fails on one of the first `k` plugins. -/
def Aborts (B : Build) (d : BrokerPluginBundleDefinition) (k : ℕ) : Prop :=
  B.ndebug = false ∧ ∃ i p, i < k ∧ d.plugins[i]? = some p ∧ p.effect_id ≠ Int32.ofNat i

instance (B : Build) (d : BrokerPluginBundleDefinition) (k : ℕ) : Decidable (Aborts B d k) :=
  decidable_of_iff (B.ndebug = false ∧ ∃ i, i < k ∧ ∃ p ∈ d.plugins[i]?, p.effect_id ≠ Int32.ofNat i) <| by
    simp only [Aborts, Option.mem_def, exists_and_left]

theorem Aborts.mono {j k : ℕ} (h : Aborts B d j) (hjk : j ≤ k) : Aborts B d k := by
  obtain ⟨hnd, i, p, hi, hp, hne⟩ := h
  exact ⟨hnd, i, p, by omega, hp, hne⟩

/-- One more plugin, and its assertion is met. -/
theorem not_aborts_succ {k : ℕ} (h : ¬ Aborts B d k) {p : BrokerPluginDefinition} (hp : d.plugins[k]? = some p)
    (hid : B.ndebug = true ∨ p.effect_id = Int32.ofNat k) : ¬ Aborts B d (k + 1) := by
  rintro ⟨hnd, i, q, hi, hq, hne⟩
  rcases Nat.lt_succ_iff_lt_or_eq.1 hi with hlt | rfl
  · exact h ⟨hnd, i, q, hlt, hq, hne⟩
  · rw [hp] at hq
    cases hq
    rcases hid with hnd' | hid
    · rw [hnd] at hnd'; cases hnd'
    · exact hne hid

/-- Effect `i` when there are `k` effects. -/
def effectAfter (B : Build) (k i : ℕ) (p : BrokerPluginDefinition) : MfxProxyEffect where
  m_effect_id := UInt32.ofNat i
  m_broker := B.broker
  m_identifier := if relocatedBy B.growth i k then "" else (c_str p.identifier).str

/-- **What the loop has done after `k` rounds from `s₀`.** -/
structure Defined (B : Build) (d : BrokerPluginBundleDefinition) (s₀ : MfxProxyPlugin max) (k : ℕ)
    (s : MfxProxyPlugin max) : Prop where
  asserted : ¬ Aborts B d k
  broker : s.m_broker = s₀.m_broker
  loop_starts : s.loop_starts = s₀.loop_starts
  stores : s.stores = s₀.stores ++ List.range k
  length : s.m_effects.data.length = k
  capacity : s.m_effects.capacity = capacityAt B.growth k
  entries : ∀ i p, d.plugins[i]? = some p → ∀ hi : i < max, i < k →
    s.ofx_plugins[i] = filled p s₀.ofx_plugins[i]
  untouched : ∀ i, ∀ hi : i < max, k ≤ i → s.ofx_plugins[i] = s₀.ofx_plugins[i]
  effects : ∀ i p, d.plugins[i]? = some p → i < k → s.m_effects.data[i]? = some (effectAfter B k i p)
  ids : ∀ i e, s.m_effects.data[i]? = some e → e.m_effect_id = UInt32.ofNat i

theorem defined_zero (h : s₀.m_effects = {}) : Defined B d s₀ 0 s₀ where
  asserted := by rintro ⟨-, i, p, hi, -⟩; omega
  broker := rfl
  loop_starts := rfl
  stores := by simp
  length := by rw [h]; rfl
  capacity := by rw [h]; rfl
  entries := by intro i p _ _ hi; omega
  untouched := by intro i _ _; rfl
  effects := by intro i p _ hi; omega
  ids := by intro i e he; rw [h] at he; simp at he

/-- Relocating the effects of `k` rounds, or not. -/
theorem Defined.kept_getElem? {k : ℕ} (h : Defined B d s₀ k s) {i : ℕ} {p : BrokerPluginDefinition}
    (hp : d.plugins[i]? = some p) (hi : i < k) :
    s.m_effects.kept[i]? = some (effectAfter B (k + 1) i p) := by
  have he := h.effects i p hp hi
  rw [EffectVector.kept, h.length, h.capacity]
  -- only a full vector is relocated, and then all of it
  by_cases hfull : k = capacityAt B.growth k
  · rw [if_pos hfull, List.getElem?_map, he, Option.map_some, Option.some.injEq]
    have : relocatedBy B.growth i (k + 1) := (relocatedBy_succ hi).2 (Or.inr hfull.symm)
    simp [MfxProxyEffect.moveConstruct, effectAfter, this]
  · rw [if_neg hfull, he, Option.some.injEq]
    have : relocatedBy B.growth i (k + 1) ↔ relocatedBy B.growth i k := by
      rw [relocatedBy_succ hi]
      exact or_iff_left fun h' => hfull h'.symm
    rw [effectAfter, effectAfter, if_congr this rfl rfl]

theorem Defined.kept_ids {k : ℕ} (h : Defined B d s₀ k s) {i : ℕ} {e : MfxProxyEffect}
    (he : s.m_effects.kept[i]? = some e) : e.m_effect_id = UInt32.ofNat i := by
  unfold EffectVector.kept at he
  split at he
  · rw [List.getElem?_map, Option.map_eq_some_iff] at he
    obtain ⟨e', he', rfl⟩ := he
    exact h.ids i e' he'
  · exact h.ids i e he

/-- **One round.** -/
theorem Defined.round {k : ℕ} (h : Defined B d s₀ k s) {hk : k < max} {p : BrokerPluginDefinition}
    (hp : d.plugins[k]? = some p) (hid : B.ndebug = true ∨ p.effect_id = Int32.ofNat k)
    (hr : Round B k hk p s t) : Defined B d s₀ (k + 1) t := by
  have hlen : s.m_effects.kept.length = k := by rw [EffectVector.kept_length, h.length]
  have hnew : (MfxProxyEffect.create (Int32.ofNat k) B.broker).SetName (c_str p.identifier) =
      effectAfter B (k + 1) k p := by
    -- nothing was added after the new effect
    have hnot : ¬ relocatedBy B.growth k (k + 1) := by rintro ⟨j, h1, h2, -⟩; omega
    simp [effectAfter, hnot, MfxProxyEffect.create, MfxProxyEffect.SetName]
  refine ⟨not_aborts_succ h.asserted hp hid, hr.broker.trans h.broker, hr.loop_starts.trans h.loop_starts,
    ?_, ?_, ?_, ?_, ?_, ?_, ?_⟩
  · rw [hr.stores, h.stores, List.range_succ, List.append_assoc]
  · rw [hr.effects]; simp [h.length]
  · rw [hr.capacity, h.length, h.capacity]; rfl
  · intro i q hq hi hik
    simp only [hr.entries]
    by_cases heq : i = k
    · subst heq
      rw [hp] at hq; cases hq
      rw [Vector.getElem_set_self, h.untouched i hi le_rfl]
    · rw [Vector.getElem_set_ne _ _ (Ne.symm heq)]
      exact h.entries i q hq hi (by omega)
  · intro i hi hik
    simp only [hr.entries]
    rw [Vector.getElem_set_ne _ _ (by omega)]
    exact h.untouched i hi (by omega)
  · intro i q hq hik
    rw [hr.effects]
    by_cases heq : i = k
    · subst heq
      rw [hp] at hq; cases hq
      rw [List.getElem?_append_right (by omega), hlen, Nat.sub_self, hnew]
      rfl
    · rw [List.getElem?_append_left (by omega)]
      exact h.kept_getElem? hq (by omega)
  · intro i e he
    rw [hr.effects] at he
    -- an effect of the rounds before, the new one, or none
    rcases Nat.lt_trichotomy i k with hlt | heq | hgt
    · rw [List.getElem?_append_left (by omega)] at he
      exact h.kept_ids he
    · subst heq
      rw [List.getElem?_append_right (by omega), hlen, Nat.sub_self, hnew] at he
      simp only [List.getElem?_cons_zero, Option.some.injEq] at he
      rw [← he]; rfl
    · rw [List.getElem?_append_right (by omega), hlen] at he
      rw [List.getElem?_eq_none (by simp; omega)] at he
      cases he

/-- How a round below the maximum can stop: its plugin is missing, or the assertion on
its id fails. -/
def RoundStops (B : Build) (d : BrokerPluginBundleDefinition) (k : ℕ) (f : Fault) : Prop :=
  (f = .undefined ∧ d.plugins[k]? = none) ∨ (f = .assert ∧ Aborts B d (k + 1))

theorem defineEffect_triple {k : ℕ} (hk : k < max) : Prog.Triple (Defined B d s₀ k)
    (MfxProxyPlugin.defineEffect B d k) (fun _ => Defined B d s₀ (k + 1))
    (fun f s => Defined B d s₀ k s ∧ RoundStops B d k f) := by
  intro s h
  cases hp : d.plugins[k]? with
  | none =>
    have : (MfxProxyPlugin.defineEffect B d k).run s = (s, .error .undefined) := by
      rw [MfxProxyPlugin.defineEffect, if_neg (by omega), hp]; rfl
    rw [this]
    exact ⟨h, Or.inl ⟨rfl, hp⟩⟩
  | some p =>
    by_cases hid : B.ndebug = true ∨ p.effect_id = Int32.ofNat k
    · obtain ⟨t, ht, hr⟩ := defineEffect_ok (d := d) hk hp hid h.length
      rw [ht]
      exact h.round hp hid hr
    · rw [defineEffect_assert (by omega) hp hid]
      push Not at hid
      exact ⟨h, Or.inr ⟨rfl, by simpa using hid.1, k, p, by omega, hp, hid.2⟩⟩

/-- The rounds below the maximum, and how they can stop. -/
theorem rounds_triple {n : ℕ} (hn : n ≤ max) : Prog.Triple (Defined B d s₀ 0)
    (Prog.forEach (MfxProxyPlugin.defineEffect B d) (List.range n)) (fun _ => Defined B d s₀ n)
    (fun f s => ∃ k < n, Defined B d s₀ k s ∧ RoundStops B d k f) :=
  Prog.triple_forEach_range n fun k hk =>
    (defineEffect_triple (by omega)).error_mono fun _ _ h => ⟨k, hk, h⟩

/-- **The loop goes through**, up to the maximum, when there are enough plugins and no
assertion fails. -/
theorem rounds_ok {n : ℕ} (hn : n ≤ max) (hlen : n ≤ d.plugins.length) (hab : ¬ Aborts B d n)
    (h : s.m_effects = {}) :
    ∃ t, (Prog.forEach (MfxProxyPlugin.defineEffect B d) (List.range n)).run s = (t, .ok ()) ∧
      Defined B d s n t := by
  have htr : Prog.Triple (Defined B d s 0) (Prog.forEach (MfxProxyPlugin.defineEffect B d) (List.range n))
      (fun _ => Defined B d s n) (fun _ _ => False) := by
    refine (rounds_triple hn).error_mono ?_
    rintro f t ⟨k, hk, -, ⟨-, hnone⟩ | ⟨-, habort⟩⟩
    · rw [List.getElem?_eq_none_iff] at hnone; omega
    · exact hab (habort.mono hk)
  obtain ⟨t, ⟨⟩, ht, hD⟩ := htr.returns (defined_zero h)
  exact ⟨t, ht, hD⟩

/-- **The loop aborts** on the first assertion that fails. -/
theorem rounds_abort {n k : ℕ} (hlen : n ≤ d.plugins.length) (hkn : k ≤ n) (hk : k ≤ max + 1)
    (hab : Aborts B d k) (h : s.m_effects = {}) :
    ∃ t, (Prog.forEach (MfxProxyPlugin.defineEffect B d) (List.range n)).run s = (t, .error .assert) := by
  -- the induction finds the first assertion that fails
  induction k with
  | zero =>
    obtain ⟨-, i, p, hi, -⟩ := hab
    omega
  | succ k ih =>
    by_cases hab' : Aborts B d k
    · exact ih (by omega) (by omega) hab'
    · -- the first `k` rounds go through, and the next one is the first to fail
      obtain ⟨t, ht, -⟩ := rounds_ok (by omega) (by omega) hab' h
      have hlast : k < d.plugins.length := by omega
      obtain ⟨p, hp⟩ : ∃ p, d.plugins[k]? = some p := ⟨d.plugins[k], List.getElem?_eq_getElem hlast⟩
      have hid : ¬ (B.ndebug = true ∨ p.effect_id = Int32.ofNat k) := fun hid => not_aborts_succ hab' hp hid hab
      refine ⟨t, Prog.run_forEach_range_error ?_ hkn⟩
      rw [Prog.run_forEach_range_succ ht, defineEffect_assert (by omega) hp hid]

/-- **One plugin too many and the loop stores past the end of the table.** -/
theorem rounds_overflow {n : ℕ} (hn : max < n) (hlen : n = d.plugins.length) (hab : ¬ Aborts B d (max + 1))
    (h : s.m_effects = {}) :
    ∃ t, (Prog.forEach (MfxProxyPlugin.defineEffect B d) (List.range n)).run s = (t, .error .undefined) ∧
      max ∈ t.stores := by
  obtain ⟨t, ht, hD⟩ := rounds_ok (le_refl max) (by omega) (fun h => hab (h.mono (by omega))) h
  have hlast : max < d.plugins.length := by omega
  obtain ⟨p, hp⟩ : ∃ p, d.plugins[max]? = some p := ⟨d.plugins[max], List.getElem?_eq_getElem hlast⟩
  -- an assertion that failed at `max` would have stopped the call
  have hid : B.ndebug = true ∨ p.effect_id = Int32.ofNat max := by
    by_contra hne
    push Not at hne
    exact hab ⟨by simpa using hne.1, max, p, by omega, hp, hne.2⟩
  refine ⟨{ t with stores := t.stores ++ [max] }, ?_, by simp⟩
  refine Prog.run_forEach_range_error ?_ hn
  rw [Prog.run_forEach_range_succ ht, defineEffect_overflow hp hid]

/-! ## The whole loop -/

/-- The definition has as many plugins as it says. -/
def Sized (d : BrokerPluginBundleDefinition) : Prop := d.number_of_plugins.toInt = d.plugins.length

theorem Sized.sizeAgrees (h : Sized d) : MfxProxyPlugin.sizeAgrees d := by
  have hlt := d.number_of_plugins.toInt_lt
  unfold Sized at h
  unfold MfxProxyPlugin.sizeAgrees
  omega

/-- The definition has as many plugins as it says, and where assertions are compiled in
their ids are their positions. -/
structure Consistent (B : Build) (d : BrokerPluginBundleDefinition) : Prop where
  size : Sized d
  ids : ¬ Aborts B d d.plugins.length

/-- A plugin about to enter the defining loop. -/
def loopEntry (s : MfxProxyPlugin max) : MfxProxyPlugin max :=
  { s with loop_starts := s.loop_starts ++ [s.m_effects.data.length] }

/-- How the loop can end on a definition of at most `max` plugins, whatever it holds. -/
theorem defineEffects_triple (h₀ : s₀.m_effects = {}) (hn : d.number_of_plugins.toInt ≤ max) :
    Prog.Triple (· = s₀) (MfxProxyPlugin.defineEffects B d)
      (fun _ => Defined B d (loopEntry s₀) d.number_of_plugins.toInt.toNat)
      (fun f s => (f = .assert ∨ f = .undefined) ∧ ¬ Consistent B d ∧
        (s = s₀ ∨ ∃ k < d.number_of_plugins.toInt.toNat, Defined B d (loopEntry s₀) k s)) := by
  refine Prog.Triple.bind (Q := fun _ => (· = s₀)) (Prog.triple_lift (fun _ _ _ h => h) ?_) fun _ => ?_
  · intro f s hf hs
    rw [cassert] at hf
    split at hf
    · cases hf
    · rename_i hsize
      cases hf
      exact ⟨Or.inl rfl, fun hd => hsize (Or.inr hd.size.sizeAgrees), Or.inl hs⟩
  refine Prog.Triple.bind (Q := fun _ => Defined B d (loopEntry s₀) 0) (Prog.triple_modify ?_) fun _ => ?_
  · rintro s rfl
    exact defined_zero h₀
  refine (rounds_triple (by omega)).error_mono ?_
  rintro f s ⟨k, hk, hD, hstop⟩
  refine ⟨?_, fun hd => ?_, Or.inr ⟨k, hk, hD⟩⟩
  · rcases hstop with ⟨hf, -⟩ | ⟨hf, -⟩
    · exact Or.inr hf
    · exact Or.inl hf
  · have hsize : d.number_of_plugins.toInt = d.plugins.length := hd.size
    rcases hstop with ⟨-, hnone⟩ | ⟨-, hab⟩
    · rw [List.getElem?_eq_none_iff] at hnone; omega
    · exact hd.ids (hab.mono (by omega))

/-- On a sized definition the loop is its rounds. -/
theorem defineEffects_sized (hd : Sized d) : (MfxProxyPlugin.defineEffects B d).run s₀ =
    (Prog.forEach (MfxProxyPlugin.defineEffect B d) (List.range d.plugins.length)).run (loopEntry s₀) := by
  have hassert : cassert B.ndebug (MfxProxyPlugin.sizeAgrees d) = .ok () := by
    rw [cassert, if_pos (Or.inr hd.sizeAgrees)]
  have hn : d.number_of_plugins.toInt.toNat = d.plugins.length := by
    unfold Sized at hd
    omega
  rw [MfxProxyPlugin.defineEffects, hassert, Prog.run_lift_ok_bind, Prog.run_modify_bind, hn]
  rfl

end MfxProxy
