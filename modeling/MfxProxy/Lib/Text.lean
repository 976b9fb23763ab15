import Mathlib.Algebra.Ring.Nat
import Mathlib.Data.List.TakeWhile

/-!
# Text in messages

* `splitMax sep n l`: `l` cut at its first `n` separators (`splitMax_cases`).
* `asciiBytes`, `asciiText`: characters below 128 as bytes, and back
  (`asciiText_asciiBytes`).
* `padded w n`: a number in decimal, filled up with zeros to `w` digits, which reads back
  (`ofDigitChars_padded`), and when it begins with another one (`padded_prefix_iff`).
-/

namespace MfxProxy.Lib

section split

variable {α : Type*} [DecidableEq α] {sep : α} {a l : List α}

/-- The pieces of a list between its first `n` separators, and what follows them. -/
def splitMax (sep : α) : ℕ → List α → List (List α)
  | 0, l => [l]
  | n + 1, l =>
    match l.dropWhile (· ≠ sep) with
    | [] => [l]
    | _ :: r => l.takeWhile (· ≠ sep) :: splitMax sep n r

@[simp] theorem splitMax_zero : splitMax sep 0 l = [l] := rfl

/-- A piece without a separator is cut off as it is, whatever follows it. -/
theorem splitMax_succ (n : ℕ) (ha : sep ∉ a) : splitMax sep (n + 1) (a ++ sep :: l) = a :: splitMax sep n l := by
  have hne : ∀ x ∈ a, decide (x ≠ sep) = true := by
    intro x hx
    rw [decide_eq_true_iff]
    rintro rfl
    exact ha hx
  rw [splitMax, List.dropWhile_append_of_pos hne, List.takeWhile_append_of_pos hne]
  simp

omit [DecidableEq α] in
/-- What has no separator is a prefix only of what stands before the separator. -/
theorem prefix_append_sep_iff (hl : sep ∉ l) {r : List α} : l <+: a ++ sep :: r ↔ l <+: a := by
  constructor
  · intro h
    rcases Nat.lt_or_ge a.length l.length with hlt | hle
    · -- the separator would be in `l`
      have hsep : a ++ [sep] <+: a ++ sep :: r := ⟨r, by simp⟩
      have hin := List.prefix_of_prefix_length_le hsep h (by rw [List.length_append, List.length_singleton]; exact hlt)
      exact (hl (hin.subset (by simp))).elim
    · exact List.prefix_of_prefix_length_le h (List.prefix_append _ _) hle
  · exact List.prefix_append_of_prefix

end split

section ascii

/-- All characters are ASCII. -/
def isAscii (l : List Char) : Bool := l.all fun c => c.toNat < 128

/-- The bytes of a text, if all of its characters are ASCII. -/
def asciiBytes (l : List Char) : Option (List UInt8) :=
  if isAscii l then some (l.map fun c => UInt8.ofNat c.toNat) else none

/-- The text of some bytes, if all of them are ASCII. -/
def asciiText (b : List UInt8) : Option (List Char) :=
  if b.all fun x => x.toNat < 128 then some (b.map fun x => Char.ofNat x.toNat) else none

variable {l m : List Char} {b c : List UInt8}

theorem isAscii_iff : isAscii l = true ↔ ∀ c ∈ l, c.toNat < 128 := by
  simp [isAscii]

@[simp] theorem isAscii_append : isAscii (l ++ m) = (isAscii l && isAscii m) := List.all_append

theorem asciiBytes_eq_some : asciiBytes l = some b ↔ isAscii l = true ∧ b = l.map fun c => UInt8.ofNat c.toNat := by
  rw [asciiBytes, Option.ite_none_right_eq_some, Option.some.injEq, @eq_comm _ b]

theorem toNat_ofNat_ascii {d : Char} (h : d.toNat < 128) : (UInt8.ofNat d.toNat).toNat = d.toNat := by
  rw [UInt8.toNat_ofNat']
  omega

/-- **ASCII bytes give their text back.** -/
theorem asciiText_asciiBytes (h : asciiBytes l = some b) : asciiText b = some l := by
  obtain ⟨hl, rfl⟩ := asciiBytes_eq_some.1 h
  rw [isAscii_iff] at hl
  have hall : ((l.map fun c => UInt8.ofNat c.toNat).all fun x => x.toNat < 128) = true := by
    rw [List.all_eq_true]
    intro x hx
    obtain ⟨d, hd, rfl⟩ := List.mem_map.1 hx
    rw [toNat_ofNat_ascii (hl d hd), decide_eq_true_iff]
    exact hl d hd
  have hback : ∀ d ∈ l, ((fun x : UInt8 => Char.ofNat x.toNat) ∘ fun c => UInt8.ofNat c.toNat) d = id d := by
    intro d hd
    rw [Function.comp_apply, toNat_ofNat_ascii (hl d hd), Char.ofNat_toNat, id_eq]
  rw [asciiText, if_pos hall, List.map_map, List.map_congr_left hback, List.map_id]

theorem asciiBytes_append (hl : asciiBytes l = some b) (hm : asciiBytes m = some c) :
    asciiBytes (l ++ m) = some (b ++ c) := by
  obtain ⟨hasciil, rfl⟩ := asciiBytes_eq_some.1 hl
  obtain ⟨hasciim, rfl⟩ := asciiBytes_eq_some.1 hm
  refine asciiBytes_eq_some.2 ⟨?_, List.map_append.symm⟩
  rw [isAscii_append, hasciil, hasciim]
  rfl

/-- A character is among the bytes only if it is in the text. -/
theorem mem_of_asciiBytes (h : asciiBytes l = some b) {d : Char} (hd : d.toNat < 128)
    (hmem : UInt8.ofNat d.toNat ∈ b) : d ∈ l := by
  obtain ⟨hl, rfl⟩ := asciiBytes_eq_some.1 h
  obtain ⟨d', hd', heq⟩ := List.mem_map.1 hmem
  have hnat := congrArg UInt8.toNat heq
  rw [toNat_ofNat_ascii (isAscii_iff.1 hl d' hd'), toNat_ofNat_ascii hd] at hnat
  have hchar := congrArg Char.ofNat hnat
  rw [Char.ofNat_toNat, Char.ofNat_toNat] at hchar
  exact hchar ▸ hd'

/-- ASCII texts begin with each other as their bytes do. -/
theorem asciiBytes_prefix_iff (hl : asciiBytes l = some b) (hm : asciiBytes m = some c) : b <+: c ↔ l <+: m := by
  have htext := asciiText_asciiBytes hl
  have htext' := asciiText_asciiBytes hm
  constructor
  · intro h
    rw [asciiText, Option.ite_none_right_eq_some, Option.some.injEq] at htext htext'
    rw [← htext.2, ← htext'.2]
    exact h.map _
  · intro h
    obtain ⟨-, rfl⟩ := asciiBytes_eq_some.1 hl
    obtain ⟨-, rfl⟩ := asciiBytes_eq_some.1 hm
    exact h.map _

end ascii

section decimal

/-- The decimal digits of a number, filled up with zeros to `w` digits. -/
def padded (w n : ℕ) : List Char :=
  List.replicate (w - (Nat.toDigits 10 n).length) '0' ++ Nat.toDigits 10 n

variable {w n m : ℕ}

theorem isDigit_padded : ∀ c ∈ padded w n, c.isDigit = true := by
  intro c hc
  rcases List.mem_append.1 hc with h | h
  · rw [List.eq_of_mem_replicate h]
    rfl
  · exact Nat.isDigit_of_mem_toDigits (by decide) (by decide) h

theorem padded_ne_nil : padded w n ≠ [] := fun h => Nat.toDigits_ne_nil (List.append_eq_nil_iff.1 h).2

/-- **A padded number reads back.** -/
theorem ofDigitChars_padded : Nat.ofDigitChars 10 (padded w n) 0 = n := by
  rw [padded, Nat.ofDigitChars_append, Nat.ofDigitChars_replicate_zero, Nat.mul_zero, Nat.ofDigitChars_ten_toDigits]

theorem isAscii_of_isDigit {l : List Char} (h : ∀ c ∈ l, c.isDigit = true) : isAscii l = true := by
  rw [isAscii_iff]
  intro c hc
  have := h c hc
  simp only [Char.isDigit, Bool.and_eq_true, decide_eq_true_eq] at this
  have h9 : c.toNat ≤ 57 := this.2
  omega

/-- A number with enough digits is not filled up. -/
theorem padded_eq_toDigits (h : w ≤ (Nat.toDigits 10 n).length) : padded w n = Nat.toDigits 10 n := by
  rw [padded, Nat.sub_eq_zero_of_le h, List.replicate_zero, List.nil_append]

theorem length_padded : (padded w n).length = max w (Nat.toDigits 10 n).length := by
  rw [padded, List.length_append, List.length_replicate]
  omega

/-- A number has at least `w` digits from the power of ten on. -/
theorem le_length_toDigits_iff (hw : 0 < w) : w + 1 ≤ (Nat.toDigits 10 n).length ↔ 10 ^ w ≤ n := by
  have h := Nat.length_toDigits_le_iff (n := n) (k := w) (b := 10) (by decide) hw
  omega

/-- The digits of a number begin with those of its quotients by powers of ten. -/
theorem toDigits_div_prefix (k : ℕ) (h : 0 < n / 10 ^ k) : Nat.toDigits 10 (n / 10 ^ k) <+: Nat.toDigits 10 n := by
  induction k with
  | zero => simp
  | succ k ih =>
    rw [Nat.pow_succ, ← Nat.div_div_eq_div_mul] at h ⊢
    have hle : 10 ≤ n / 10 ^ k := by omega
    have hlast := Nat.toDigits_of_base_le (b := 10) (by decide) hle
    exact (hlast ▸ List.prefix_append _ _).trans (ih (by omega))

theorem ofDigitChars_lt {l : List Char} (h : ∀ c ∈ l, c.isDigit = true) : Nat.ofDigitChars 10 l 0 < 10 ^ l.length := by
  induction l with
  | nil => simp
  | cons c l ih =>
    have hc := h c List.mem_cons_self
    simp only [Char.isDigit, Bool.and_eq_true, decide_eq_true_eq] at hc
    have h9 : c.toNat ≤ 57 := hc.2
    have hl := ih fun x hx => h x (List.mem_cons_of_mem _ hx)
    have hle : (10 * 0 + (c.toNat - '0'.toNat)) * 10 ^ l.length ≤ 9 * 10 ^ l.length :=
      Nat.mul_le_mul_right _ (by have : '0'.toNat = 48 := rfl; omega)
    rw [Nat.ofDigitChars_cons, Nat.ofDigitChars_eq_ofDigitChars_zero, List.length_cons, Nat.pow_succ]
    rw [Nat.mul_comm] at hle
    omega

/-- **A padded number begins with another one** only if it is the same, or if the other
one is not filled up and some last digits are cut off. -/
theorem padded_prefix_iff (m n : ℕ) : padded (w + 2) m <+: padded (w + 2) n ↔
    n = m ∨ (10 ^ (w + 1) ≤ m ∧ ∃ k, 0 < k ∧ n / 10 ^ k = m) := by
  constructor
  · rintro ⟨t, ht⟩
    have hlen := congrArg List.length ht
    have hn : Nat.ofDigitChars 10 t m = n := by
      have := congrArg (Nat.ofDigitChars 10 · 0) ht
      simpa only [Nat.ofDigitChars_append, ofDigitChars_padded] using this
    cases t with
    | nil => exact Or.inl hn.symm
    | cons c t =>
      -- the longer number has more than `w + 2` digits, so it is not filled up
      rw [List.length_append, length_padded, length_padded, List.length_cons] at hlen
      have hlong : w + 2 + t.length + 1 ≤ (Nat.toDigits 10 n).length := by omega
      have hdigits : ∀ d ∈ c :: t, d.isDigit = true := by
        intro d hd
        refine isDigit_padded (w := w + 2) (n := n) d ?_
        rw [← ht]
        exact List.mem_append_right _ hd
      have hlt := ofDigitChars_lt hdigits
      rw [Nat.ofDigitChars_eq_ofDigitChars_zero] at hn
      have hdiv : n / 10 ^ (c :: t).length = m := by
        rw [← hn, Nat.mul_add_div (Nat.pow_pos (by decide)), Nat.div_eq_of_lt hlt, Nat.add_zero]
      have hpow := (le_length_toDigits_iff (by omega)).1 hlong
      refine Or.inr ⟨?_, _, by simp, hdiv⟩
      have hsplit : 10 ^ (w + 2 + t.length) = 10 ^ (w + 1) * 10 ^ (c :: t).length := by
        rw [← Nat.pow_add, List.length_cons]
        congr 1
        omega
      rw [← hdiv, Nat.le_div_iff_mul_le (Nat.pow_pos (by decide)), ← hsplit]
      exact hpow
  · rintro (rfl | ⟨hm, k, -, rfl⟩)
    · exact List.prefix_refl _
    · have hfull := (le_length_toDigits_iff (by omega)).2 hm
      have hle : 10 ^ (w + 1) ≤ n := hm.trans (Nat.div_le_self _ _)
      have hfull' := (le_length_toDigits_iff (by omega)).2 hle
      rw [padded_eq_toDigits hfull, padded_eq_toDigits hfull']
      exact toDigits_div_prefix k (Nat.lt_of_lt_of_le (Nat.pow_pos (by decide)) hm)

end decimal

end MfxProxy.Lib
