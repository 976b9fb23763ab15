import MfxProxy.Proof.Mockup.ProxyLib

/-!
# Long ids

What the mockup does with an id depends on the number of its digits.

* `round_trip_of_converts`: a message of `main` comes back if its id can be converted to text; a
  longer id is not encoded at all (`to_bytes_too_long`).
* `routed_iff`: an instance gets exactly its own messages, unless the sender's id is the
  instance's with more digits behind it (`Extends`). The subscription does not end with a
  separator.
-/

namespace MfxProxy.Mockup

open Lib

variable {py : Python} {a b : ℤ} {p s : Bytes}

/-! ## Round trips -/

/-- **A message comes back**, if its id is not negative and not too long to be converted. -/
theorem round_trip_of_converts {m : Message} (hid : 0 ≤ m.instance_id)
    (hlen : py.Converts (Nat.toDigits 10 m.instance_id.natAbs).length) (hdata : py.RoundTrips m.data) :
    ∃ b, m.to_bytes py = .ok b ∧ Message.from_bytes py b = .ok m := by
  obtain ⟨b, hb, hback, -⟩ := message_wire ⟨hid, hlen⟩ hdata
  exact ⟨b, hb, hback⟩

theorem round_trip_start : ∃ b, (describeStart 123456789 "a-b").to_bytes .reference = .ok b ∧
    Message.from_bytes .reference b = .ok (describeStart 123456789 "a-b") :=
  round_trip_of_converts (by decide) (by decide) (Reference.roundTrips_describeStart _ _)

theorem to_bytes_too_long {m : Message} (hlen : ¬ py.Converts (Nat.toDigits 10 m.instance_id.natAbs).length) :
    m.to_bytes py = .error .ValueError := by
  have hformat : py.format_08d m.instance_id = .error .ValueError := if_neg hlen
  rw [Message.to_bytes, hformat]
  rfl

/-- The limit is a number of digits. -/
theorem not_converts {n : ℕ} (hlimit : 0 < py.int_max_str_digits) (hn : 10 ^ py.int_max_str_digits ≤ n) :
    ¬ py.Converts (Nat.toDigits 10 n).length := by
  have hlen := (le_length_toDigits_iff hlimit).2 hn
  unfold Python.Converts
  omega

/-- The first id with more digits than the default limit. -/
def longId : ℕ := 10 ^ Python.reference.int_max_str_digits

theorem long_id_not_encoded : (0 : ℤ) ≤ longId ∧ Python.reference.RoundTrips (describeStart longId "a").data ∧
    (describeStart longId "a").to_bytes .reference = .error .ValueError := by
  have hlimit : 0 < Python.reference.int_max_str_digits := by decide
  refine ⟨Int.natCast_nonneg _, Reference.roundTrips_describeStart _ _, to_bytes_too_long ?_⟩
  exact not_converts hlimit (Nat.le_refl longId)

/-! ## Routing -/

/-- The id `a` is `b` with more digits behind it, and `b` has at least eight digits, the
width to which shorter ids are filled up. -/
def Extends (a b : ℤ) : Prop := 10 ^ 7 ≤ b ∧ ∃ k : ℕ, 0 < k ∧ a / 10 ^ k = b

/-- An id is not the same as one that extends it. -/
theorem Extends.ne (h : Extends a b) : a ≠ b := by
  rintro rfl
  obtain ⟨hlong, k, hk, hdiv⟩ := h
  have hpow : (1 : ℤ) < 10 ^ k := one_lt_pow₀ (by decide) hk.ne'
  have hlt : a / 10 ^ k < a := Int.ediv_lt_self_of_pos_of_ne_one (by omega) hpow.ne'
  omega

/-- The digits of an id begin with those of another one only if it is the same, or extends it. -/
theorem padded_prefix_iff_extends (ha : 0 ≤ a) (hb : 0 ≤ b) :
    padded 8 b.natAbs <+: padded 8 a.natAbs ↔ a = b ∨ Extends a b := by
  lift a to ℕ using ha
  lift b to ℕ using hb
  have hcast : Extends a b ↔ 10 ^ 7 ≤ b ∧ ∃ k, 0 < k ∧ a / 10 ^ k = b := by
    unfold Extends
    norm_cast
  rw [Int.natAbs_natCast, Int.natAbs_natCast, padded_prefix_iff (w := 6), Nat.cast_inj, hcast]

theorem format_08d_eq_ok {n : ℤ} {t : String} (hn : 0 ≤ n) (h : py.format_08d n = .ok t) :
    t = String.ofList (padded 8 n.natAbs) := by
  have hneg : ¬ n < 0 := Int.not_lt.2 hn
  simp only [Python.format_08d, if_neg hneg] at h
  split at h
  · exact (Except.ok.inj h).symm
  · cases h

/-- **Which subscriptions a message meets**, whatever it has between and after its
separators. -/
theorem fields_prefix_iff (ha : 0 ≤ a) (hb : 0 ≤ b) {t t' type data sep : String} (ht : py.format_08d a = .ok t)
    (ht' : py.format_08d b = .ok t') (hp : encode_ascii t' = .ok p) {d : Char} (hd : d.toNat < 128)
    (hdigit : d.isDigit = false) (hsep : encode_ascii sep = .ok [UInt8.ofNat d.toNat])
    (hs : encode_ascii (t ++ sep ++ type ++ sep ++ data) = .ok s) : p <+: s ↔ a = b ∨ Extends a b := by
  obtain ⟨x, y, z, hx, -, -, rfl⟩ := (encode_fields hsep).1 hs
  obtain rfl := format_08d_eq_ok ha ht
  obtain rfl := format_08d_eq_ok hb ht'
  have hmem : UInt8.ofNat d.toNat ∉ p := not_mem_encode hp hd (not_mem_padded _ hdigit)
  rw [encode_eq_ok, String.toList_ofList] at hx hp
  rw [prefix_append_sep_iff hmem, asciiBytes_prefix_iff hp hx, padded_prefix_iff_extends ha hb]

/-- The two modules subscribe in the same way. -/
theorem get_instance_prefix_ok {n : ℤ} (hid : py.Renders n) :
    ∃ p, Message.get_instance_prefix py n = .ok p ∧ ProxyLib.Message.get_instance_prefix py n = .ok p := by
  obtain ⟨p, hp⟩ := encode_padded n.natAbs
  have hformat := format_08d_eq hid
  exact ⟨p, bind_eq_ok.2 ⟨_, hformat, hp⟩, bind_eq_ok.2 ⟨_, hformat, hp⟩⟩

theorem message_prefix_iff (ha : 0 ≤ a) (hb : 0 ≤ b) (hp : Message.get_instance_prefix py b = .ok p) {m : Message}
    (hm : m.instance_id = a) (hs : m.to_bytes py = .ok s) : p <+: s ↔ a = b ∨ Extends a b := by
  subst hm
  obtain ⟨t', ht', hp⟩ := bind_eq_ok.1 hp
  obtain ⟨t, ht, hs⟩ := bind_eq_ok.1 hs
  exact fields_prefix_iff ha hb ht ht' hp (d := '-') (by decide) rfl rfl hs

theorem proxy_message_prefix_iff (ha : 0 ≤ a) (hb : 0 ≤ b) (hp : ProxyLib.Message.get_instance_prefix py b = .ok p)
    {m : ProxyLib.Message} (hm : m.instance_id = a) (hs : m.to_bytes py = .ok s) : p <+: s ↔ a = b ∨ Extends a b := by
  subst hm
  obtain ⟨t', ht', hp⟩ := bind_eq_ok.1 hp
  obtain ⟨t, ht, hs⟩ := bind_eq_ok.1 hs
  exact fields_prefix_iff ha hb ht ht' hp (d := '/') (by decide) rfl rfl hs

/-- Exactness fails where an id extends another one, and only there. -/
theorem exact_iff_of_or {P : Prop} (h : P ↔ a = b ∨ Extends a b) : (P ↔ a = b) ↔ ¬ Extends a b := by
  constructor
  · intro hexact hext
    exact hext.ne (hexact.1 (h.2 (Or.inr hext)))
  · intro hext
    rw [h]
    exact or_iff_left hext

/-- **An encoded message starts with the subscription of an instance exactly when it is
its own**, unless the id of its sender extends the instance's id. -/
theorem routed_iff (ha : 0 ≤ a) (hb : 0 ≤ b) {p p' : Bytes} (hp : Message.get_instance_prefix py b = .ok p)
    (hp' : ProxyLib.Message.get_instance_prefix py b = .ok p') :
    (∀ (m : Message) s, m.instance_id = a → m.to_bytes py = .ok s → ((p <+: s ↔ a = b) ↔ ¬ Extends a b)) ∧
    ∀ (m : ProxyLib.Message) s, m.instance_id = a → m.to_bytes py = .ok s → ((p' <+: s ↔ a = b) ↔ ¬ Extends a b) := by
  constructor
  · intro m s hm hs
    exact exact_iff_of_or (message_prefix_iff ha hb hp hm hs)
  · intro m s hm hs
    exact exact_iff_of_or (proxy_message_prefix_iff ha hb hp' hm hs)

theorem routed_two : ∃ p s, Message.get_instance_prefix .reference 1 = .ok p ∧
    (describeStart 2 "a").to_bytes .reference = .ok s ∧ ¬ p <+: s := by
  obtain ⟨p, hp, hp'⟩ := get_instance_prefix_ok (show Python.reference.Renders 1 from ⟨by decide, by decide⟩)
  obtain ⟨s, hs, -⟩ := message_wire ⟨by decide, by decide⟩ (Reference.roundTrips_describeStart 2 "a")
  have hext : ¬ Extends 2 1 := fun h => absurd h.1 (by decide)
  have hexact := ((routed_iff (by decide) (by decide) hp hp').1 _ s rfl hs).2 hext
  exact ⟨p, s, hp, hs, fun h => absurd (hexact.1 h) (by decide)⟩

/-- The messages of the instance 100000000 start with the subscription of the instance 10000000. -/
theorem message_misrouted : (∃ p s, Message.get_instance_prefix .reference 10000000 = .ok p ∧
      (describeStart 100000000 "a").to_bytes .reference = .ok s ∧ p <+: s) ∧
    ∃ p s, ProxyLib.Message.get_instance_prefix .reference 10000000 = .ok p ∧
      { ProxyLib.describeRequest "a" with instance_id := 100000000 }.to_bytes .reference = .ok s ∧ p <+: s := by
  have hext : Extends 100000000 10000000 := ⟨by decide, 1, by decide, by decide⟩
  have hdata := Reference.roundTrips_describeStart 100000000 "a"
  obtain ⟨p, hp, hp'⟩ := get_instance_prefix_ok (show Python.reference.Renders 10000000 from ⟨by decide, by decide⟩)
  constructor
  · obtain ⟨s, hs, -⟩ := message_wire ⟨by decide, by decide⟩ hdata
    exact ⟨p, s, hp, hs, (message_prefix_iff (by decide) (by decide) hp rfl hs).2 (Or.inr hext)⟩
  · obtain ⟨z, hz, -⟩ := hdata
    obtain ⟨s, hs⟩ := ProxyLib.to_bytes_ok (m := { ProxyLib.describeRequest "a" with instance_id := 100000000 })
      (by decide) hz
    exact ⟨p, s, hp', hs, (proxy_message_prefix_iff (by decide) (by decide) hp' rfl hs).2 (Or.inr hext)⟩

end MfxProxy.Mockup
