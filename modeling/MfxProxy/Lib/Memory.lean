import MfxProxy.Lib.Words

/-!
# Memory that grows downwards

A list of bytes is memory from a lowest address up. Data is added below it, so what is
there is best found from its end: `slice m loc n` are the `n` bytes that start `loc` bytes
before the end, and stay the same whatever is added (`slice_append`).

* `scalarBytes w n`, `scalarOf l`: a little-endian scalar of `w` bytes.
* `sub m k n`, `overwrite m k src`: the bytes from address `k` on, read and written.
* `sub_overwrite`, `sub_overwrite_of_disjoint`: what is read after a write.
-/

namespace MfxProxy.Lib

/-! ## Scalars -/

/-- The `w` bytes of a scalar, least significant first. -/
def scalarBytes (w n : ℕ) : List UInt8 := (lowDigits 256 w n).map UInt8.ofNat

/-- The scalar that bytes stand for. -/
def scalarOf (l : List UInt8) : ℕ := Nat.ofDigits 256 (l.map UInt8.toNat)

@[simp] theorem length_scalarBytes (w n : ℕ) : (scalarBytes w n).length = w := by simp [scalarBytes]

/-- **A scalar is read back modulo its width.** -/
@[simp] theorem scalarOf_scalarBytes (w n : ℕ) : scalarOf (scalarBytes w n) = n % 256 ^ w := by
  have hmap : (scalarBytes w n).map UInt8.toNat = lowDigits 256 w n := by
    rw [scalarBytes, List.map_map]
    conv_rhs => rw [← List.map_id (lowDigits 256 w n)]
    apply List.map_congr_left
    intro d hd
    have hlt := lowDigits_lt (by norm_num) w n d hd
    simp only [Function.comp_apply, id_eq, UInt8.toNat_ofNat']
    omega
  rw [scalarOf, hmap, ofDigits_lowDigits]

theorem scalarOf_scalarBytes_of_lt {w n : ℕ} (h : n < 256 ^ w) : scalarOf (scalarBytes w n) = n := by
  rw [scalarOf_scalarBytes, Nat.mod_eq_of_lt h]

theorem scalarOf_replicate_zero (w : ℕ) : scalarOf (List.replicate w 0) = 0 := by
  induction w with
  | zero => rfl
  | succ w ih =>
    rw [scalarOf] at ih ⊢
    rw [List.replicate_succ, List.map_cons, Nat.ofDigits_cons, ih]
    rfl

/-! ## From the lowest address -/

/-- The `n` bytes from address `k` on. -/
def sub (m : List UInt8) (k n : ℕ) : List UInt8 := (m.drop k).take n

/-- The memory with `src` written from address `k` on. -/
def overwrite (m : List UInt8) (k : ℕ) (src : List UInt8) : List UInt8 :=
  m.take k ++ src ++ m.drop (k + src.length)

variable {m a b c src : List UInt8} {k l n loc : ℕ}

theorem sub_block (a b c : List UInt8) : sub (a ++ b ++ c) a.length b.length = b := by
  rw [sub, List.append_assoc, List.drop_left, List.take_left]

/-- A part of the first piece. -/
theorem sub_append_left (h : k + n ≤ a.length) : sub (a ++ b) k n = sub a k n := by
  rw [sub, sub, List.drop_append_of_le_length (by omega), List.take_append_of_le_length]
  rw [List.length_drop]
  omega

/-- A part of the second piece. -/
theorem sub_append_right : sub (a ++ b) (a.length + k) n = sub b k n := by
  rw [sub, sub, List.drop_append, List.drop_eq_nil_of_le (by omega)]
  simp

/-- A part of a part. -/
theorem sub_sub {i : ℕ} (h : l + i ≤ n) : sub (sub m k n) l i = sub m (k + l) i := by
  rw [sub, sub, sub, List.drop_take, List.take_take, List.drop_drop, Nat.min_eq_left (by omega)]

theorem length_overwrite (h : k + src.length ≤ m.length) : (overwrite m k src).length = m.length := by
  rw [overwrite, List.length_append, List.length_append, List.length_take, List.length_drop]
  omega

/-- What was written. -/
theorem sub_overwrite (src : List UInt8) (h : k ≤ m.length) : sub (overwrite m k src) k src.length = src := by
  have hk : (m.take k).length = k := by rw [List.length_take]; omega
  have := sub_block (m.take k) src (m.drop (k + src.length))
  rw [hk] at this
  exact this

/-- What was not. -/
theorem sub_overwrite_of_disjoint (hk : k + src.length ≤ m.length) (hl : l + n ≤ m.length)
    (h : l + n ≤ k ∨ k + src.length ≤ l) : sub (overwrite m k src) l n = sub m l n := by
  have htake : (m.take k).length = k := by rw [List.length_take]; omega
  rcases h with h | h
  · -- before
    have hm : sub m l n = sub (m.take k ++ m.drop k) l n := by rw [List.take_append_drop]
    rw [hm, overwrite, List.append_assoc, sub_append_left (by omega), sub_append_left (by omega)]
  · -- behind
    obtain ⟨d, rfl⟩ := Nat.exists_eq_add_of_le h
    have hlen : (m.take k ++ src).length = k + src.length := by rw [List.length_append, htake]
    have hleft : sub (overwrite m k src) (k + src.length + d) n = sub (m.drop (k + src.length)) d n := by
      rw [overwrite, ← hlen, sub_append_right]
    rw [hleft, sub, sub, List.drop_drop]

/-- Writing into the first piece. -/
theorem overwrite_append_left (b : List UInt8) (h : k + src.length ≤ a.length) :
    overwrite (a ++ b) k src = overwrite a k src ++ b := by
  rw [overwrite, overwrite, List.take_append_of_le_length (by omega), List.drop_append_of_le_length h]
  simp

/-- Writing over a piece. -/
theorem overwrite_block (a c : List UInt8) (h : src.length = b.length) :
    overwrite (a ++ b ++ c) a.length src = a ++ src ++ c := by
  have htake : (a ++ b ++ c).take a.length = a := by rw [List.append_assoc, List.take_left]
  have hdrop : (a ++ b ++ c).drop (a.length + b.length) = c := by rw [← List.length_append, List.drop_left]
  rw [overwrite, h, htake, hdrop]

/-! ## From the end -/

/-- The `n` bytes that start `loc` bytes before the end. -/
def slice (m : List UInt8) (loc n : ℕ) : List UInt8 := sub m (m.length - loc) n

/-- **What is added below changes nothing.** -/
theorem slice_append (a : List UInt8) (h : loc ≤ m.length) : slice (a ++ m) loc n = slice m loc n := by
  have hloc : (a ++ m).length - loc = a.length + (m.length - loc) := by
    rw [List.length_append]
    omega
  rw [slice, slice, hloc, sub_append_right]

end MfxProxy.Lib
