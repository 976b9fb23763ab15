import Mathlib.Data.Nat.Digits.Defs
import Mathlib.Data.List.Basic
import Mathlib.Tactic.Ring

/-!
# Machine words as bytes

* `lowDigits b w n`: the `w` lowest base-`b` digits of `n`, least significant first;
  below `b ^ w` they determine `n` (`ofDigits_lowDigits`).
* `wordBytes o n`, `wordOf o l`: the four bytes of a 32-bit word as `memcpy` copies
  them on a machine of byte order `o`, and the word they read back to
  (`wordOf_wordBytes`).
* `prefix_of_width`: a byte string of the width of the first field is a leading part
  of a record only if it is that field.
-/

namespace MfxProxy.Lib

/-- The `w` lowest base-`b` digits of `n`, least significant first. -/
def lowDigits (b : ℕ) : ℕ → ℕ → List ℕ
  | 0, _ => []
  | w + 1, n => n % b :: lowDigits b w (n / b)

@[simp] theorem lowDigits_length (b w n : ℕ) : (lowDigits b w n).length = w := by
  induction w generalizing n with
  | zero => rfl
  | succ w ih => simp [lowDigits, ih]

theorem ofDigits_lowDigits (b w n : ℕ) : Nat.ofDigits b (lowDigits b w n) = n % b ^ w := by
  induction w generalizing n with
  | zero => simp [lowDigits, Nat.mod_one]
  | succ w ih =>
    rw [lowDigits, Nat.ofDigits_cons, ih, pow_succ', Nat.mod_mul]

theorem lowDigits_lt {b : ℕ} (hb : 0 < b) (w n : ℕ) : ∀ d ∈ lowDigits b w n, d < b := by
  induction w generalizing n with
  | zero => simp [lowDigits]
  | succ w ih =>
    intro d hd
    rcases List.mem_cons.1 hd with rfl | hd
    · exact Nat.mod_lt _ hb
    · exact ih _ d hd

/-- The order in which a machine stores the bytes of a word. -/
inductive ByteOrder
  | little
  | big
  deriving DecidableEq

/-- The bytes of a word, from lowest address to highest. -/
def wordBytes (o : ByteOrder) (n : UInt32) : List UInt8 :=
  let l := (lowDigits 256 4 n.toNat).map UInt8.ofNat
  match o with
  | .little => l
  | .big => l.reverse

/-- The word stored in a list of bytes, from lowest address to highest. -/
def wordOf (o : ByteOrder) (l : List UInt8) : UInt32 :=
  let l := match o with
    | .little => l
    | .big => l.reverse
  UInt32.ofNat (Nat.ofDigits 256 (l.map UInt8.toNat))

@[simp] theorem wordBytes_length (o : ByteOrder) (n : UInt32) : (wordBytes o n).length = 4 := by
  cases o <;> simp [wordBytes]

/-- **A word is read back from its bytes.** -/
@[simp] theorem wordOf_wordBytes (o : ByteOrder) (n : UInt32) : wordOf o (wordBytes o n) = n := by
  have hmap : ((lowDigits 256 4 n.toNat).map UInt8.ofNat).map UInt8.toNat = lowDigits 256 4 n.toNat := by
    rw [List.map_map]
    conv_rhs => rw [← List.map_id (lowDigits 256 4 n.toNat)]
    apply List.map_congr_left
    intro d hd
    have := lowDigits_lt (by norm_num) 4 n.toNat d hd
    simp only [Function.comp_apply, id_eq, UInt8.toNat_ofNat']
    omega
  have hlt : n.toNat < 256 ^ 4 := by simpa using n.toNat_lt
  have hval : wordOf o (wordBytes o n) = UInt32.ofNat (Nat.ofDigits 256 (lowDigits 256 4 n.toNat)) := by
    cases o <;> simp [wordOf, wordBytes, hmap]
  rw [hval, ofDigits_lowDigits, Nat.mod_eq_of_lt hlt, UInt32.ofNat_toNat]

/-- **Words with the same bytes are equal.** -/
theorem wordBytes_inj {o : ByteOrder} {n m : UInt32} : wordBytes o n = wordBytes o m ↔ n = m := by
  constructor
  · intro h
    rw [← wordOf_wordBytes o n, h, wordOf_wordBytes]
  · rintro rfl; rfl

/-- **A leading part as wide as the first field is that field.** -/
theorem prefix_of_width {α : Type*} {p f r : List α} (h : p.length = f.length) :
    p <+: f ++ r ↔ p = f := by
  rw [List.prefix_iff_eq_take, h, List.take_left']
  rfl

end MfxProxy.Lib
