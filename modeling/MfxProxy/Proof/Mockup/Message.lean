import MfxProxy.Spec.Mockup.System

/-!
# Messages of the mockup survive the wire

* `int_of_digits`, `int_padded`: a number in decimal is read back.
* `encode_fields`, `splitMax_fields`, `decode_encode`: the fields of a message as ASCII.
* `message_wire`: a message is encoded, is decoded again, and is delivered to the
  instances with its id.
-/

namespace MfxProxy.Mockup

open Lib

variable {py : Python}

theorem bind_eq_ok {α β : Type} {x : Except PyError α} {f : α → Except PyError β} {b : β} :
    (x >>= f) = .ok b ↔ ∃ a, x = .ok a ∧ f a = .ok b := by
  cases x with
  | error e => exact ⟨nofun, nofun⟩
  | ok a => exact ⟨fun h => ⟨a, rfl, h⟩, by rintro ⟨a', ⟨⟩, h⟩; exact h⟩

/-! ## Numbers -/

/-- The ids that can be written and read back: they are not negative, and not too long to
be converted. -/
structure Python.Renders (py : Python) (instance_id : ℤ) : Prop where
  nonneg : 0 ≤ instance_id
  converts : py.Converts (Nat.toDigits 10 instance_id.natAbs).length

theorem isDigit_ne {c d : Char} (hc : c.isDigit = true) (hd : d.isDigit = false) : c ≠ d := by
  rintro rfl
  rw [hc] at hd
  cases hd

theorem literalDigits_of_digits : ∀ {l : List Char}, l ≠ [] → (∀ c ∈ l, c.isDigit = true) → literalDigits l = some l
  | [], hne, _ => (hne rfl).elim
  | [c], _, hd => by
    rw [literalDigits, if_pos (hd c List.mem_cons_self)]
  | c :: d :: l, _, hd => by
    have hd' : d.isDigit = true := hd d (by simp)
    have htail := literalDigits_of_digits (l := d :: l) (by simp) fun x hx => hd x (List.mem_cons_of_mem _ hx)
    rw [literalDigits, if_pos (hd c List.mem_cons_self), htail, Option.map_some]
    exact isDigit_ne hd' rfl

theorem not_isSpace_of_isDigit {c : Char} (hc : c.isDigit = true) : isSpace c = false := by
  simp only [Char.isDigit, Bool.and_eq_true, decide_eq_true_eq] at hc
  have h0 : 48 ≤ c.toNat := hc.1
  unfold isSpace
  rw [decide_eq_false_iff_not]
  omega

theorem dropWhile_isSpace {l : List Char} (hd : ∀ c ∈ l, c.isDigit = true) : l.dropWhile isSpace = l := by
  cases l with
  | nil => rfl
  | cons c l => rw [List.dropWhile_cons, not_isSpace_of_isDigit (hd c List.mem_cons_self), if_neg (by simp)]

theorem literalSign_of_digits {l : List Char} (hd : ∀ c ∈ l, c.isDigit = true) : literalSign l = (1, l) := by
  unfold literalSign
  split
  · exact (isDigit_ne (hd _ List.mem_cons_self) (by rfl) rfl).elim
  · exact (isDigit_ne (hd _ List.mem_cons_self) (by rfl) rfl).elim
  · rfl

/-- **A literal of digits only is the number it spells.** -/
theorem int_of_digits {l : List Char} (hne : l ≠ []) (hd : ∀ c ∈ l, c.isDigit = true)
    (hlen : py.Converts l.length) : py.int (String.ofList l) = .ok (Nat.ofDigitChars 10 l 0) := by
  have hstrip : (l.dropWhile isSpace).reverse.dropWhile isSpace = l.reverse := by
    rw [dropWhile_isSpace hd, dropWhile_isSpace fun c hc => hd c (List.mem_reverse.1 hc)]
  unfold Python.int
  rw [String.toList_ofList, hstrip, List.reverse_reverse]
  simp only [literalSign_of_digits hd, literalDigits_of_digits hne hd, if_pos hlen, Int.one_mul]

/-- A limit on the digits of a number does not count the zeros of the padding. -/
theorem converts_padded {n : ℕ} (h : py.Converts (Nat.toDigits 10 n).length) : py.Converts (padded 8 n).length := by
  unfold Python.Converts at *
  -- a limit is at least 640, and the padding goes up to 8
  have := py.threshold
  rw [padded, List.length_append, List.length_replicate]
  omega

theorem int_padded {n : ℕ} (h : py.Converts (Nat.toDigits 10 n).length) :
    py.int (String.ofList (padded 8 n)) = .ok n := by
  rw [int_of_digits padded_ne_nil isDigit_padded (converts_padded h), ofDigitChars_padded]

/-! ## Texts -/

theorem encode_eq_ok {s : String} {b : Bytes} : encode_ascii s = .ok b ↔ asciiBytes s.toList = some b := by
  unfold encode_ascii
  split
  · rename_i b' hb
    rw [hb, Except.ok.injEq, Option.some.injEq]
  · rename_i hb
    rw [hb]
    exact ⟨nofun, nofun⟩

theorem encode_append {s t : String} {b c : Bytes} (hs : encode_ascii s = .ok b) (ht : encode_ascii t = .ok c) :
    encode_ascii (s ++ t) = .ok (b ++ c) := by
  rw [encode_eq_ok] at *
  rw [String.toList_append, asciiBytes_append hs ht]

/-- An encoded text is encoded piece by piece. -/
theorem encode_append_eq_ok {s t : String} {b : Bytes} : encode_ascii (s ++ t) = .ok b ↔
    ∃ c d, encode_ascii s = .ok c ∧ encode_ascii t = .ok d ∧ b = c ++ d := by
  constructor
  · intro h
    rw [encode_eq_ok, asciiBytes_eq_some, String.toList_append, isAscii_append, Bool.and_eq_true] at h
    obtain ⟨⟨hs, ht⟩, rfl⟩ := h
    exact ⟨_, _, encode_eq_ok.2 (asciiBytes_eq_some.2 ⟨hs, rfl⟩), encode_eq_ok.2 (asciiBytes_eq_some.2 ⟨ht, rfl⟩),
      List.map_append⟩
  · rintro ⟨c, d, hs, ht, rfl⟩
    exact encode_append hs ht

/-- The three fields of a message, between its separators. -/
theorem encode_fields {sep : String} {c : UInt8} (hsep : encode_ascii sep = .ok [c]) {s t d : String} {b : Bytes} :
    encode_ascii (s ++ sep ++ t ++ sep ++ d) = .ok b ↔
      ∃ x y z, encode_ascii s = .ok x ∧ encode_ascii t = .ok y ∧ encode_ascii d = .ok z ∧
        b = x ++ c :: (y ++ c :: z) := by
  constructor
  · intro h
    obtain ⟨b₁, z, h₁, hz, rfl⟩ := encode_append_eq_ok.1 h
    obtain ⟨b₂, c₂, h₂, hc₂, rfl⟩ := encode_append_eq_ok.1 h₁
    obtain ⟨b₃, y, h₃, hy, rfl⟩ := encode_append_eq_ok.1 h₂
    obtain ⟨x, c₁, hx, hc₁, rfl⟩ := encode_append_eq_ok.1 h₃
    obtain rfl := Except.ok.inj (hsep.symm.trans hc₁)
    obtain rfl := Except.ok.inj (hsep.symm.trans hc₂)
    exact ⟨x, y, z, hx, hy, hz, by simp⟩
  · rintro ⟨x, y, z, hx, hy, hz, rfl⟩
    have hall := encode_append (encode_append (encode_append (encode_append hx hsep) hy) hsep) hz
    rw [hall]
    simp

/-- The fields are cut apart again, unless one of the first two has a separator. -/
theorem splitMax_fields {c : UInt8} {x y z : Bytes} (hx : c ∉ x) (hy : c ∉ y) :
    splitMax c 2 (x ++ c :: (y ++ c :: z)) = [x, y, z] := by
  rw [splitMax_succ 1 hx, splitMax_succ 0 hy, splitMax_zero]

theorem decode_encode {s : String} {b : Bytes} (h : encode_ascii s = .ok b) : decode_ascii b = .ok s := by
  rw [encode_eq_ok] at h
  simp only [decode_ascii, asciiText_asciiBytes h, String.ofList_toList]

/-- A text without a separator has no separator among its bytes. -/
theorem not_mem_encode {s : String} {b : Bytes} {d : Char} (h : encode_ascii s = .ok b) (hd : d.toNat < 128)
    (hs : d ∉ s.toList) : UInt8.ofNat d.toNat ∉ b := by
  rw [encode_eq_ok] at h
  intro hmem
  exact hs (mem_of_asciiBytes h hd hmem)

theorem encode_of_isAscii {s : String} (h : isAscii s.toList = true) : ∃ b, encode_ascii s = .ok b :=
  ⟨_, encode_eq_ok.2 (asciiBytes_eq_some.2 ⟨h, rfl⟩)⟩

theorem encode_padded (n : ℕ) : ∃ b, encode_ascii (String.ofList (padded 8 n)) = .ok b := by
  apply encode_of_isAscii
  rw [String.toList_ofList]
  exact isAscii_of_isDigit isDigit_padded

theorem not_mem_padded {w : ℕ} (n : ℕ) {d : Char} (hd : d.isDigit = false) :
    d ∉ (String.ofList (padded w n)).toList := by
  rw [String.toList_ofList]
  intro h
  exact isDigit_ne (isDigit_padded _ h) hd rfl

theorem encode_value (T : MessageType) : ∃ b, encode_ascii T.value = .ok b := by
  apply encode_of_isAscii
  cases T <;> decide

theorem not_mem_value (T : MessageType) : '-' ∉ T.value.toList := by
  cases T <;> decide

@[simp] theorem ofValue_value (T : MessageType) : MessageType.ofValue T.value = .ok T := by
  cases T <;> rfl

/-! ## Messages -/

/-- `json.dumps` writes ASCII text that `json.loads` maps back. -/
def Python.RoundTrips (py : Python) (d : Json) : Prop := ∃ b, encode_ascii (py.dumps d) = .ok b ∧ py.loads b = .ok d

theorem format_08d_eq {n : ℤ} (h : py.Renders n) : py.format_08d n = .ok (String.ofList (padded 8 n.natAbs)) := by
  have hneg : ¬ n < 0 := Int.not_lt.2 h.nonneg
  simp only [Python.format_08d, if_pos h.converts, if_neg hneg]

/-- An id with a prefix to subscribe to is not too long to be converted. -/
theorem converts_of_prefix {n : ℤ} {p : Bytes} (h : Message.get_instance_prefix py n = .ok p) :
    py.Converts (Nat.toDigits 10 n.natAbs).length := by
  by_contra hlong
  have hformat : py.format_08d n = .error .ValueError := if_neg hlong
  rw [Message.get_instance_prefix, hformat] at h
  cases h

/-- **A message survives the wire.** It is encoded, decoded again, and begins with the
prefix to which the instances with its id are subscribed. -/
theorem message_wire {m : Message} (hid : py.Renders m.instance_id) (hdata : py.RoundTrips m.data) :
    ∃ b, m.to_bytes py = .ok b ∧ Message.from_bytes py b = .ok m ∧ subscribed py m.instance_id b = true := by
  obtain ⟨id, hidb⟩ := encode_padded m.instance_id.natAbs
  obtain ⟨type, htype⟩ := encode_value m.type_
  obtain ⟨data, hdatab, hloads⟩ := hdata
  have hformat := format_08d_eq hid
  refine ⟨id ++ 45 :: (type ++ 45 :: data), ?_, ?_, ?_⟩
  · simp only [Message.to_bytes, hformat, bind, Except.bind]
    exact (encode_fields rfl).2 ⟨id, type, data, hidb, htype, hdatab, rfl⟩
  -- neither the id nor the type has a `-`, so both cuts are where they should be
  · have hsplit : splitMax 45 2 (id ++ 45 :: (type ++ 45 :: data)) = [id, type, data] :=
      splitMax_fields (not_mem_encode (d := '-') hidb (by decide) (not_mem_padded _ rfl))
        (not_mem_encode (d := '-') htype (by decide) (not_mem_value _))
    have hint : py.int (String.ofList (padded 8 m.instance_id.natAbs)) = .ok m.instance_id := by
      rw [int_padded hid.converts, Int.natAbs_of_nonneg hid.nonneg]
    rw [Message.from_bytes, hsplit]
    simp [getitem, decode_encode hidb, decode_encode htype, hint, hloads, bind, Except.bind, pure, Except.pure]
  · have hsub : Message.get_instance_prefix py m.instance_id = .ok id := by
      simp only [Message.get_instance_prefix, hformat, bind, Except.bind, hidb]
    have hstarts : id.isPrefixOf (id ++ 45 :: (type ++ 45 :: data)) = true :=
      List.isPrefixOf_iff_prefix.2 (List.prefix_append _ _)
    simp only [subscribed, hsub, hstarts]

end MfxProxy.Mockup
