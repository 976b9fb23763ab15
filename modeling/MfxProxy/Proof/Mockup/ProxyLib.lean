import MfxProxy.Proof.Mockup.Reference
import MfxProxy.Spec.Mockup.ProxyLib

/-!
# The messages of the mockup in two processes do not survive the wire

* `from_bytes_eq_ok`: the bytes that are decoded, and to what (`Spells`).
* `from_bytes_to_bytes`: an encoded message is not decoded again. It has the text
  `MessageType.X` for its type, and the type is looked up as `X`.
* `round_trip_never`: so no message comes back.
-/

namespace MfxProxy.Mockup.ProxyLib

open Lib

variable {py : Python} {m : Message} {s b : Bytes}

/-! ## Types -/

/-- The text of a type in a message is not the value of any type. -/
theorem ofValue_format (T : MessageType) : MessageType.ofValue T.format = .error .ValueError := by
  cases T <;> rfl

theorem encode_format (T : MessageType) : ∃ y, encode_ascii T.format = .ok y := by
  apply encode_of_isAscii
  cases T <;> decide

theorem not_mem_format (T : MessageType) : '/' ∉ T.format.toList := by
  cases T <;> decide

/-! ## Ids -/

theorem not_mem_format_08d {n : ℤ} {t : String} (h : py.format_08d n = .ok t) : '/' ∉ t.toList := by
  unfold Python.format_08d at h
  split at h
  · obtain rfl := Except.ok.inj h
    rw [String.toList_ofList]
    intro hmem
    have hdigit : '/' ∉ padded 7 n.natAbs ∧ '/' ∉ padded 8 n.natAbs :=
      ⟨fun h => isDigit_ne (isDigit_padded _ h) rfl rfl, fun h => isDigit_ne (isDigit_padded _ h) rfl rfl⟩
    split at hmem
    · rcases List.mem_cons.1 hmem with hsign | hmem
      · exact absurd hsign (by decide)
      · exact hdigit.1 hmem
    · exact hdigit.2 hmem
  · cases h

theorem encode_format_08d {n : ℤ} {t : String} (h : py.format_08d n = .ok t) : ∃ x, encode_ascii t = .ok x := by
  unfold Python.format_08d at h
  split at h
  · obtain rfl := Except.ok.inj h
    apply encode_of_isAscii
    rw [String.toList_ofList]
    split
    · have hsign : isAscii ['-'] = true := by decide
      rw [← List.singleton_append, isAscii_append, hsign, isAscii_of_isDigit isDigit_padded]
      rfl
    · exact isAscii_of_isDigit isDigit_padded
  · cases h

theorem int_error {t : String} {e : PyError} (h : py.int t = .error e) : e = .ValueError := by
  unfold Python.int at h
  simp only at h
  split at h
  · split at h <;> cases h
    rfl
  · cases h
    rfl

/-! ## Decoding -/

/-- The bytes that are decoded to a message: three fields, the last of which goes on to
the end. -/
def Spells (py : Python) (s : Bytes) (m : Message) : Prop :=
  ∃ x y z, 47 ∉ x ∧ 47 ∉ y ∧ s = x ++ 47 :: (y ++ 47 :: z) ∧
    (∃ id, decode_ascii x = .ok id ∧ py.int id = .ok m.instance_id) ∧
    decode_ascii y = .ok m.type_.value ∧ py.loads z = .ok m.data

/-- A message is encoded, if its id can be converted and its data is ASCII text. -/
theorem to_bytes_ok {z : Bytes} (hid : py.Converts (Nat.toDigits 10 m.instance_id.natAbs).length)
    (hdata : encode_ascii (py.dumps m.data) = .ok z) : ∃ b, m.to_bytes py = .ok b := by
  have hformat : ∃ t, py.format_08d m.instance_id = .ok t := ⟨_, if_pos hid⟩
  obtain ⟨t, ht⟩ := hformat
  obtain ⟨x, hx⟩ := encode_format_08d ht
  obtain ⟨y, hy⟩ := encode_format m.type_
  have hsep : encode_ascii "/" = .ok [47] := rfl
  exact ⟨_, bind_eq_ok.2 ⟨t, ht, (encode_fields hsep).2 ⟨x, y, z, hx, hy, hdata, rfl⟩⟩⟩

theorem from_bytes_to_bytes (h : m.to_bytes py = .ok b) : Message.from_bytes py b = .error .ValueError := by
  obtain ⟨t, ht, hb⟩ := bind_eq_ok.1 h
  have hsep : encode_ascii "/" = .ok [47] := rfl
  obtain ⟨x, y, z, hx, hy, -, rfl⟩ := (encode_fields hsep).1 hb
  have hsplit : splitMax 47 2 (x ++ 47 :: (y ++ 47 :: z)) = [x, y, z] :=
    splitMax_fields (not_mem_encode (d := '/') hx (by decide) (not_mem_format_08d ht))
      (not_mem_encode (d := '/') hy (by decide) (not_mem_format _))
  rw [Message.from_bytes, hsplit]
  -- the id may be too long to be read back; if it is not, the lookup of the type fails
  cases hint : py.int t with
  | error e =>
    obtain rfl := int_error hint
    simp [getitem, decode_encode hx, hint, bind, Except.bind]
  | ok n =>
    simp [getitem, decode_encode hx, decode_encode hy, hint, ofValue_format, bind, Except.bind]

/-- **No message comes back.** -/
theorem round_trip_never (py : Python) (m : Message) :
    ¬ ∃ b, m.to_bytes py = .ok b ∧ Message.from_bytes py b = .ok m := by
  rintro ⟨b, hb, hm⟩
  rw [from_bytes_to_bytes hb] at hm
  cases hm

/-- What `_plugin_action_describe` of the global instance sends. -/
def describeRequest (parameters : String) : Message where
  instance_id := 0
  type_ := .ActionDescribeStart
  data := .dict [("parameters", .str parameters)]

/-- Its JSON can be read back, it is encoded, and it is not decoded. -/
theorem describe_request_lost : Python.reference.RoundTrips (describeRequest "a/b").data ∧
    ∃ b, (describeRequest "a/b").to_bytes .reference = .ok b ∧
      Message.from_bytes .reference b ≠ .ok (describeRequest "a/b") := by
  have hdata : Python.reference.RoundTrips (describeRequest "a/b").data := Reference.roundTrips_describeStart 0 "a/b"
  have hascii := hdata
  obtain ⟨z, hz, -⟩ := hascii
  obtain ⟨b, hb⟩ := to_bytes_ok (m := describeRequest "a/b") (by decide) hz
  refine ⟨hdata, b, hb, ?_⟩
  rw [from_bytes_to_bytes hb]
  exact nofun

end MfxProxy.Mockup.ProxyLib
