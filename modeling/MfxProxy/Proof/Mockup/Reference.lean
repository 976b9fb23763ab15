import MfxProxy.Proof.Mockup.Message
import MfxProxy.Spec.Mockup.Reference

/-!
# The reference JSON reads back what it writes

* `readString_writeString`, `readItems_writeItems`: strings, and items between brackets.
* `roundTrips_dict`: dictionaries of strings and of lists of strings.
-/

namespace MfxProxy.Mockup.Reference

open Lib

/-! ## Strings -/

theorem hexValue_digitChar : ∀ d < 16, hexValue (Nat.digitChar d) = d := by decide

theorem toNat_lt_ascii_digitChar : ∀ d < 16, (Nat.digitChar d).toNat < 128 := by decide

/-- An escaped character is read back. -/
theorem readChars_escape (c : Char) (r : List Char) :
    readChars (escape c ++ r) = (readChars r).map fun p => (c :: p.1, p.2) := by
  -- six digits are enough for every character
  have hlt : c.toNat < 16 ^ 6 := by
    have hvalid : c.toNat < 0xd800 ∨ (0xdfff < c.toNat ∧ c.toNat < 0x110000) := c.valid
    omega
  have hdigits : ((lowDigits 16 6 c.toNat).map Nat.digitChar).map hexValue = lowDigits 16 6 c.toNat := by
    rw [List.map_map]
    refine (List.map_congr_left fun d hd => ?_).trans (List.map_id _)
    exact hexValue_digitChar d (lowDigits_lt (by decide) 6 _ d hd)
  have hchar : Char.ofNat (Nat.ofDigits 16 (((lowDigits 16 6 c.toNat).map Nat.digitChar).map hexValue)) = c := by
    rw [hdigits, ofDigits_lowDigits, Nat.mod_eq_of_lt hlt, Char.ofNat_toNat]
  calc readChars (escape c ++ r)
      = (readChars r).map fun p =>
          (Char.ofNat (Nat.ofDigits 16 (((lowDigits 16 6 c.toNat).map Nat.digitChar).map hexValue)) :: p.1, p.2) := rfl
    _ = (readChars r).map fun p => (c :: p.1, p.2) := by rw [hchar]

theorem readChars_plain {c : Char} (hc : plain c = true) (r : List Char) :
    readChars (c :: r) = (readChars r).map fun p => (c :: p.1, p.2) := by
  simp only [plain, decide_eq_true_eq] at hc
  obtain ⟨-, -, hquote, hslash⟩ := hc
  rw [readChars.eq_def]
  split
  · rename_i h; cases h
  · rename_i h; cases h; exact (hquote rfl).elim
  · rename_i h; cases h; exact (hslash rfl).elim
  · rename_i h; cases h; rfl

theorem readString_writeString (s r : List Char) : readString (writeString s ++ r) = some (s, r) := by
  have hchars : ∀ s, readChars (s.flatMap (fun c => if plain c then [c] else escape c) ++ '"' :: r) = some (s, r) := by
    intro s
    induction s with
    | nil => rfl
    | cons c s ih =>
      rw [List.flatMap_cons, List.append_assoc]
      split
      · rename_i hc
        rw [List.singleton_append, readChars_plain hc, ih]
        rfl
      · rw [readChars_escape, ih]
        rfl
  have hquote : writeString s ++ r = '"' :: (s.flatMap (fun c => if plain c then [c] else escape c) ++ '"' :: r) := by
    simp [writeString]
  rw [hquote]
  exact hchars s

theorem ascii_writeString (s : List Char) : isAscii (writeString s) = true := by
  have hbody : isAscii (s.flatMap fun c => if plain c then [c] else escape c) = true := by
    rw [isAscii_iff]
    intro d hd
    obtain ⟨c, -, hd⟩ := List.mem_flatMap.1 hd
    split at hd
    · rename_i hc
      simp only [plain, decide_eq_true_eq] at hc
      rw [List.mem_singleton.1 hd]
      omega
    · rcases List.mem_cons.1 hd with rfl | hd
      · decide
      · obtain ⟨n, hn, rfl⟩ := List.mem_map.1 hd
        exact toNat_lt_ascii_digitChar n (lowDigits_lt (by decide) 6 _ n hn)
  have hquote : isAscii ['"'] = true := by decide
  have htext : writeString s = ['"'] ++ s.flatMap (fun c => if plain c then [c] else escape c) ++ ['"'] := rfl
  rw [htext, isAscii_append, isAscii_append, hquote, hbody]
  rfl

/-! ## Items between brackets -/

section items

variable {α : Type} (write : α → List Char) (read : List Char → Option (α × List Char)) {close : Char}

theorem length_le_writeItems (close : Char) : ∀ l : List α, l.length ≤ (writeItems write close l).length
  | [] => Nat.zero_le _
  | [a] => by simp [writeItems]
  | a :: b :: l => by
    have ih := length_le_writeItems close (b :: l)
    simp only [writeItems, List.length_append, List.length_cons] at ih ⊢
    omega

/-- **Items are read back**, if each item is, whatever follows it. -/
theorem readItems_writeItems (hclose : close ≠ ',') : ∀ {l : List α}, l ≠ [] →
    (∀ a ∈ l, ∀ r, read (write a ++ r) = some (a, r)) → ∀ {n : ℕ}, l.length ≤ n → ∀ r,
    readItems read close n (writeItems write close l ++ r) = some (l, r)
  | [], hne, _, _, _, _ => (hne rfl).elim
  | [a], _, hread, n + 1, _, r => by
    rw [writeItems, List.append_assoc, readItems, hread a List.mem_cons_self]
    simp [hclose]
  | a :: b :: l, _, hread, n + 1, hn, r => by
    have hrest := readItems_writeItems hclose (l := b :: l) (by simp) (fun x hx => hread x (List.mem_cons_of_mem _ hx))
      (n := n) (by simpa using hn) r
    have htext : writeItems write close (a :: b :: l) ++ r =
        write a ++ ',' :: ' ' :: (writeItems write close (b :: l) ++ r) := by
      simp [writeItems]
    rw [htext, readItems, hread a List.mem_cons_self]
    simp only [hrest, Option.map_some]

theorem ascii_writeItems (hclose : isAscii [close] = true) : ∀ {l : List α}, (∀ a ∈ l, isAscii (write a) = true) →
    isAscii (writeItems write close l) = true
  | [], _ => hclose
  | [a], h => by
    rw [writeItems, isAscii_append, h a List.mem_cons_self, hclose]
    rfl
  | a :: b :: l, h => by
    have hsep : isAscii [',', ' '] = true := by decide
    have hrest := ascii_writeItems hclose (l := b :: l) fun x hx => h x (List.mem_cons_of_mem _ hx)
    have htext : writeItems write close (a :: b :: l) =
        write a ++ ([',', ' '] ++ writeItems write close (b :: l)) := rfl
    rw [htext, isAscii_append, isAscii_append, h a List.mem_cons_self, hsep, hrest]
    rfl

end items

/-! ## Values and dictionaries -/

/-- The values that are read back: strings, and lists of strings that are not empty. -/
def Readable : Json → Prop
  | .str _ => True
  | .list l => l ≠ [] ∧ ∀ v ∈ l, ∃ s, v = .str s
  | _ => False

theorem strings_back {l : List Json} (h : ∀ v ∈ l, ∃ s, v = .str s) :
    (strings l).map (fun s => Json.str (String.ofList s)) = l := by
  induction l with
  | nil => rfl
  | cons v l ih =>
    obtain ⟨s, rfl⟩ := h v List.mem_cons_self
    have hl := ih fun v hv => h v (List.mem_cons_of_mem _ hv)
    rw [show strings (.str s :: l) = s.toList :: strings l from rfl, List.map_cons, hl, String.ofList_toList]

theorem readValue_writeValue {v : Json} (hv : Readable v) (r : List Char) :
    readValue (writeValue v ++ r) = some (v, r) := by
  cases v with
  | str s =>
    have hquote : ∃ l, writeString s.toList ++ r = '"' :: l := ⟨_, rfl⟩
    obtain ⟨l, hl⟩ := hquote
    have hread := readString_writeString s.toList r
    -- a string begins with a quote, not with a bracket
    rw [writeValue, hl, readValue]
    · rw [← hl, hread, Option.map_some, String.ofList_toList]
    · exact nofun
  | list l =>
    obtain ⟨hne, hstr⟩ := hv
    have hback := strings_back hstr
    have hne' : strings l ≠ [] := by
      intro h
      rw [h] at hback
      exact hne hback.symm
    have hlen := length_le_writeItems writeString ']' (strings l)
    have hitems := readItems_writeItems writeString readString (show ']' ≠ ',' by decide) hne'
      (fun s _ r => readString_writeString s r) (n := (writeItems writeString ']' (strings l) ++ r).length)
      (by rw [List.length_append]; omega) r
    rw [writeValue, List.cons_append, readValue, hitems, Option.map_some, hback]
  | None | bool | int | float | dict => exact hv.elim

theorem readMember_writeMember {m : String × Json} (hm : Readable m.2) (r : List Char) :
    readMember (writeMember m ++ r) = some (m, r) := by
  have htext : writeMember m ++ r = writeString m.1.toList ++ ':' :: ' ' :: (writeValue m.2 ++ r) := by
    simp [writeMember]
  rw [htext, readMember, readString_writeString]
  simp only [readValue_writeValue hm, Option.map_some, String.ofList_toList]

theorem ascii_writeValue {v : Json} : isAscii (writeValue v) = true := by
  cases v with
  | str s => exact ascii_writeString _
  | list l =>
    have hopen : isAscii ['['] = true := by decide
    have htext : writeValue (.list l) = ['['] ++ writeItems writeString ']' (strings l) := rfl
    rw [htext, isAscii_append, hopen, ascii_writeItems _ (by decide) fun s _ => ascii_writeString s]
    rfl
  | None | bool | int | float | dict => rfl

theorem ascii_writeMember (m : String × Json) : isAscii (writeMember m) = true := by
  have hsep : isAscii [':', ' '] = true := by decide
  have htext : writeMember m = writeString m.1.toList ++ ([':', ' '] ++ writeValue m.2) := rfl
  rw [htext, isAscii_append, isAscii_append, ascii_writeString, hsep, ascii_writeValue]
  rfl

/-- **Dictionaries of readable values are read back.** -/
theorem roundTrips_dict {l : List (String × Json)} (hne : l ≠ []) (hl : ∀ m ∈ l, Readable m.2) :
    Python.reference.RoundTrips (.dict l) := by
  have hascii : isAscii (dumps (.dict l)) = true := by
    have hopen : isAscii ['{'] = true := by decide
    have htext : dumps (.dict l) = ['{'] ++ writeItems writeMember '}' l := rfl
    rw [htext, isAscii_append, hopen, ascii_writeItems _ (by decide) fun m _ => ascii_writeMember m]
    rfl
  obtain ⟨b, hb⟩ : ∃ b, asciiBytes (dumps (.dict l)) = some b := ⟨_, asciiBytes_eq_some.2 ⟨hascii, rfl⟩⟩
  refine ⟨b, ?_, ?_⟩
  · rw [encode_eq_ok]
    show asciiBytes (String.ofList (dumps (.dict l))).toList = some b
    rw [String.toList_ofList]
    exact hb
  · have hlen := length_le_writeItems writeMember '}' l
    have hitems := readItems_writeItems writeMember readMember (show '}' ≠ ',' by decide) hne
      (fun m hm r => readMember_writeMember (hl m hm) r) hlen []
    rw [List.append_nil] at hitems
    show loads b = .ok (.dict l)
    rw [loads, asciiText_asciiBytes hb, dumps]
    simp only [hitems]

theorem roundTrips_describeStart (instance_id : ℤ) (parameters : String) :
    Python.reference.RoundTrips (describeStart instance_id parameters).data := by
  refine roundTrips_dict (by simp) ?_
  intro m hm
  obtain rfl := List.mem_singleton.1 hm
  trivial

theorem roundTrips_describeEnd (instance_id : ℤ) (parameters : String) :
    Python.reference.RoundTrips (describeEnd instance_id (.str parameters)).data := by
  refine roundTrips_dict (by simp) ?_
  intro m hm
  simp only [List.mem_cons, List.not_mem_nil, or_false] at hm
  rcases hm with rfl | rfl | rfl
  · exact ⟨by simp, by simp⟩
  · exact ⟨by simp, by simp⟩
  · trivial

end MfxProxy.Mockup.Reference
