import MfxProxy.Spec.Flatbuffers.Builder
import Mathlib.Data.Nat.Bitwise

/-!
# What the builder's operations add

As long as the buffer stays below `FLATBUFFERS_MAX_BUFFER_SIZE` no assertion about its size
fails, and each operation adds bytes below those that are there.

* `PaddingBytes_spec`: the padding is the least that aligns.
* `returns_Align`, `returns_PushElement`, `returns_PreAlign`, `returns_ReferTo`: one lemma for
  each operation.
-/

namespace MfxProxy.Flatbuffers

open Lib Prog

/-- A size for which scalars and structs are aligned. -/
def Aligned (w : ℕ) : Prop := w = 1 ∨ w = 2 ∨ w = 4 ∨ w = 8

theorem toNat_neg {n : ℕ} (hn : n < 2 ^ 63) : (~~~(UInt64.ofNat n) + 1).toNat = (2 ^ 64 - n) % 2 ^ 64 := by
  rw [UInt64.toNat_add, UInt64.toNat_not, UInt64.toNat_ofNat']
  have hmod : n % 2 ^ 64 = n := Nat.mod_eq_of_lt (by omega)
  rw [hmod]
  have hone : (1 : UInt64).toNat = 1 := rfl
  rw [hone]
  have hsize : UInt64.size = 2 ^ 64 := rfl
  rw [hsize]
  congr 1
  omega

/-- The padding by remainders. -/
theorem PaddingBytes_eq {n w : ℕ} (hw : Aligned w) (hn : n < 2 ^ 63) :
    PaddingBytes n w = (2 ^ 64 - n) % 2 ^ 64 % w := by
  rw [PaddingBytes, UInt64.toNat_and, toNat_neg hn]
  have hmask : ∀ k, k ≤ 3 → (UInt64.ofNat (2 ^ k) - 1).toNat = 2 ^ k - 1 := by
    intro k hk
    have hcases : k = 0 ∨ k = 1 ∨ k = 2 ∨ k = 3 := by omega
    rcases hcases with rfl | rfl | rfl | rfl <;> rfl
  rcases hw with rfl | rfl | rfl | rfl
  · rw [show (1 : ℕ) = 2 ^ 0 from rfl, hmask 0 (by omega), Nat.and_two_pow_sub_one_eq_mod]
  · rw [show (2 : ℕ) = 2 ^ 1 from rfl, hmask 1 (by omega), Nat.and_two_pow_sub_one_eq_mod]
  · rw [show (4 : ℕ) = 2 ^ 2 from rfl, hmask 2 (by omega), Nat.and_two_pow_sub_one_eq_mod]
  · rw [show (8 : ℕ) = 2 ^ 3 from rfl, hmask 3 (by omega), Nat.and_two_pow_sub_one_eq_mod]

/-- **The padding is less than a scalar, and aligns it.** -/
theorem PaddingBytes_spec {n w : ℕ} (hw : Aligned w) (hn : n < 2 ^ 63) :
    PaddingBytes n w < w ∧ (n + PaddingBytes n w) % w = 0 := by
  rw [PaddingBytes_eq hw hn]
  rcases hw with rfl | rfl | rfl | rfl <;> omega

namespace FlatBufferBuilder

variable {ndebug : Bool} {b : FlatBufferBuilder} {w n : ℕ}

/-- The builder with bytes added and the minimal alignment it tracks. -/
def add (b : FlatBufferBuilder) (new : Bytes) (m : ℕ) : FlatBufferBuilder :=
  { b with buf_ := new ++ b.buf_, minalign_ := m }

@[simp] theorem add_buf (new : Bytes) (m : ℕ) : (b.add new m).buf_ = new ++ b.buf_ := rfl

@[simp] theorem add_vtables (new : Bytes) (m : ℕ) : (b.add new m).vtables = b.vtables := rfl

@[simp] theorem add_field_locs (new : Bytes) (m : ℕ) : (b.add new m).field_locs = b.field_locs := rfl

@[simp] theorem add_max_voffset (new : Bytes) (m : ℕ) : (b.add new m).max_voffset_ = b.max_voffset_ := rfl

@[simp] theorem add_nested (new : Bytes) (m : ℕ) : (b.add new m).nested = b.nested := rfl

@[simp] theorem add_minalign (new : Bytes) (m : ℕ) : (b.add new m).minalign_ = m := rfl

theorem add_add (new new' : Bytes) (m m' : ℕ) : (b.add new m).add new' m' = b.add (new' ++ new) m' := by
  unfold add
  simp

theorem length_add (new : Bytes) (m : ℕ) : (b.add new m).buf_.length = new.length + b.buf_.length := by
  rw [add_buf, List.length_append]

theorem cassert_ok {c : Prop} [Decidable c] (h : c) : cassert ndebug c = .ok () := if_pos (Or.inr h)

/-- Padding with `k` zeros, so that a multiple of `w` is reached `n` bytes on. -/
structure Pads (b : FlatBufferBuilder) (n w k m : ℕ) : Prop where
  lt : k < w
  aligned : (b.buf_.length + n + k) % w = 0
  minalign : Aligned b.minalign_ → Aligned m

theorem pads_PaddingBytes (hw : Aligned w) (hroom : b.buf_.length + n < FLATBUFFERS_MAX_BUFFER_SIZE) :
    Pads b n w (PaddingBytes (b.buf_.length + n) w) (if w > b.minalign_ then w else b.minalign_) := by
  have hmax : b.buf_.length + n < 2 ^ 63 := lt_trans hroom (by decide)
  obtain ⟨hlt, haligned⟩ := PaddingBytes_spec hw hmax
  refine ⟨hlt, haligned, fun hm => ?_⟩
  split
  · exact hw
  · exact hm

theorem returns_GetSize {Q : ℕ → FlatBufferBuilder → Prop} (h : Q b.buf_.length b) : Returns GetSize b Q :=
  ⟨b, b.buf_.length, rfl, h⟩

theorem returns_GetSize_bind {α : Type} {f : ℕ → Build α} {Q : α → FlatBufferBuilder → Prop}
    (h : Returns (f b.buf_.length) b Q) : Returns (GetSize >>= f) b Q := h

theorem returns_ensure_space_bind {α : Type} {f : Unit → Build α} {Q : α → FlatBufferBuilder → Prop}
    (hroom : b.buf_.length < FLATBUFFERS_MAX_BUFFER_SIZE) (h : Returns (f ()) b Q) :
    Returns (ensure_space ndebug >>= f) b Q := by
  have hrun : (ensure_space ndebug).run b = (b, .ok ()) := by
    show (b, cassert ndebug _) = _
    rw [cassert_ok hroom]
  obtain ⟨t, a, hr, ha⟩ := h
  exact ⟨t, a, by rw [run_bind_ok hrun, hr], ha⟩

theorem returns_push {bytes : Bytes} (hroom : b.buf_.length < FLATBUFFERS_MAX_BUFFER_SIZE)
    {Q : Unit → FlatBufferBuilder → Prop} (h : Q () (b.add bytes b.minalign_)) : Returns (push ndebug bytes) b Q := by
  unfold push
  by_cases hnil : bytes = []
  · subst hnil
    exact returns_pure h
  · rw [if_neg hnil]
    apply returns_ensure_space_bind hroom
    exact returns_modify h

/-- Padding, once the alignment is tracked. -/
theorem returns_fill {k m : ℕ} (hroom : b.buf_.length < FLATBUFFERS_MAX_BUFFER_SIZE)
    {Q : Unit → FlatBufferBuilder → Prop} (h : Q () (b.add (List.replicate k 0) m)) :
    Returns (fill ndebug k) { b with minalign_ := m } Q :=
  returns_push (b := { b with minalign_ := m }) hroom h

theorem returns_Align (hw : Aligned w) (hroom : b.buf_.length < FLATBUFFERS_MAX_BUFFER_SIZE)
    {Q : Unit → FlatBufferBuilder → Prop}
    (h : ∀ k m, Pads b 0 w k m → Q () (b.add (List.replicate k 0) m)) : Returns (Align ndebug w) b Q := by
  unfold Align TrackMinAlign
  apply returns_modify_bind
  apply returns_GetSize_bind
  exact returns_fill hroom (h _ _ (pads_PaddingBytes hw hroom))

theorem PreAlign_zero : PreAlign ndebug 0 w = pure () := rfl

theorem returns_PreAlign (hw : Aligned w) (hn : 0 < n) (hroom : b.buf_.length + n < FLATBUFFERS_MAX_BUFFER_SIZE)
    {Q : Unit → FlatBufferBuilder → Prop}
    (h : ∀ k m, Pads b n w k m → Q () (b.add (List.replicate k 0) m)) : Returns (PreAlign ndebug n w) b Q := by
  have hpush : b.buf_.length < FLATBUFFERS_MAX_BUFFER_SIZE := by omega
  have hne : n ≠ 0 := by omega
  unfold PreAlign TrackMinAlign
  rw [if_neg hne]
  apply returns_modify_bind
  apply returns_GetSize_bind
  exact returns_fill hpush (h _ _ (pads_PaddingBytes hw hroom))

/-- A scalar, below its padding. -/
theorem returns_PushElement {e : ℕ} (hw : Aligned w) (hroom : b.buf_.length + w < FLATBUFFERS_MAX_BUFFER_SIZE)
    {Q : ℕ → FlatBufferBuilder → Prop}
    (h : ∀ k m, Pads b 0 w k m →
      Q (b.buf_.length + k + w) (b.add (scalarBytes w e ++ List.replicate k 0) m)) :
    Returns (PushElement ndebug w e) b Q := by
  unfold PushElement
  refine (returns_Align (Q := fun _ t => ∃ k m, Pads b 0 w k m ∧ t = b.add (List.replicate k 0) m) hw
    (by omega) fun k m hk => ⟨k, m, hk, rfl⟩).bind ?_
  rintro _ _ ⟨k, m, hk, rfl⟩
  have hlt := hk.lt
  have hsize : (b.add (List.replicate k 0) m).buf_.length < FLATBUFFERS_MAX_BUFFER_SIZE := by
    rw [length_add, List.length_replicate]
    omega
  refine (returns_push (Q := fun _ t => t = b.add (scalarBytes w e ++ List.replicate k 0) m) hsize
    (add_add _ _ _ _)).bind ?_
  rintro _ _ rfl
  apply returns_GetSize
  have hlen : (b.add (scalarBytes w e ++ List.replicate k 0) m).buf_.length = b.buf_.length + k + w := by
    rw [length_add, List.length_append, length_scalarBytes, List.length_replicate]
    omega
  rw [hlen]
  exact h k m hk

/-- No padding is needed where the next scalar is aligned. -/
theorem returns_PushElement_aligned {e : ℕ} (hw : Aligned w) (ha : b.buf_.length % w = 0)
    (hroom : b.buf_.length + w < FLATBUFFERS_MAX_BUFFER_SIZE) {Q : ℕ → FlatBufferBuilder → Prop}
    (h : ∀ m, (Aligned b.minalign_ → Aligned m) → Q (b.buf_.length + w) (b.add (scalarBytes w e) m)) :
    Returns (PushElement ndebug w e) b Q := by
  refine returns_PushElement hw hroom fun k m hk => ?_
  obtain rfl : k = 0 := by
    have hlt := hk.lt
    have haligned := hk.aligned
    rcases hw with rfl | rfl | rfl | rfl <;> omega
  rw [List.replicate_zero, List.append_nil]
  exact h m hk.minalign

/-- The distance to what is referred to, from where it is stored next. -/
theorem returns_ReferTo {off : ℕ} (hoff : 0 < off) (hle : off ≤ b.buf_.length)
    (hroom : b.buf_.length < FLATBUFFERS_MAX_BUFFER_SIZE) {Q : ℕ → FlatBufferBuilder → Prop}
    (h : ∀ k m, Pads b 0 4 k m → Q (b.buf_.length + k - off + 4) (b.add (List.replicate k 0) m)) :
    Returns (ReferTo ndebug off) b Q := by
  unfold ReferTo
  have hw : Aligned 4 := Or.inr (Or.inr (Or.inl rfl))
  refine (returns_Align (Q := fun _ t => ∃ k m, Pads b 0 4 k m ∧ t = b.add (List.replicate k 0) m) hw
    hroom fun k m hk => ⟨k, m, hk, rfl⟩).bind ?_
  rintro _ _ ⟨k, m, hk, rfl⟩
  have hlen : (b.add (List.replicate k 0) m).buf_.length = b.buf_.length + k := by
    rw [length_add, List.length_replicate]
    omega
  have hassert : off ≠ 0 ∧ off ≤ b.buf_.length + k := ⟨by omega, by omega⟩
  apply returns_GetSize_bind
  rw [hlen]
  apply returns_lift_bind (cassert_ok hassert)
  exact returns_pure (h k m hk)

end FlatBufferBuilder

end MfxProxy.Flatbuffers
