import MfxProxy.Proof.Flatbuffers.Builder
import MfxProxy.Spec.Flatbuffers.Table

/-!
# The vtable of a table

`At R m loc`: what starts `loc` bytes before the end of `m` satisfies `R`, and goes on to do so
when the buffer grows downwards.

* `Vtable`: what the loop of `EndTable` has written so far (`returns_writeOffsets`).
* `returns_useVtable`: an older vtable is used only if it is the same.
* `returns_EndTable`: `GetOptionalFieldOffset` finds the fields that were added and no other.
-/

namespace MfxProxy.Flatbuffers

open Lib Prog FlatBufferBuilder

/-! ## Places in a buffer that grows -/

/-- What is `loc` bytes before the end satisfies `R`, however the buffer grows. -/
structure At (R : Bytes → ℕ → Prop) (m : Bytes) (loc : ℕ) : Prop where
  pos : 0 < loc
  le : loc ≤ m.length
  holds : ∀ buf, m <:+ buf → R buf (buf.length - loc)

theorem At.mono {R S : Bytes → ℕ → Prop} {m : Bytes} {loc : ℕ} (h : At R m loc) (hRS : ∀ buf p, R buf p → S buf p) :
    At S m loc :=
  ⟨h.pos, h.le, fun buf hbuf => hRS _ _ (h.holds buf hbuf)⟩

theorem At.grow {R : Bytes → ℕ → Prop} {m n : Bytes} {loc : ℕ} (h : At R m loc) (hmn : m <:+ n) : At R n loc :=
  ⟨h.pos, le_trans h.le hmn.length_le, fun buf hbuf => h.holds buf (hmn.trans hbuf)⟩

theorem ok_bind {α β : Type} (a : α) (f : α → Except Fault β) : Except.ok a >>= f = f a := rfl

section reading

variable {buf m new rest : Bytes} {w p e loc : ℕ}

/-- The bytes at the lower end of `m`. -/
theorem read_lowest (h : new ++ rest <:+ buf) :
    Block.read buf (buf.length - (new ++ rest).length) new.length = some new := by
  obtain ⟨pre, rfl⟩ := h
  have hp : (pre ++ (new ++ rest)).length - (new ++ rest).length = pre.length := by
    rw [List.length_append]
    omega
  have hle : pre.length + new.length ≤ (pre ++ (new ++ rest)).length := by
    simp only [List.length_append]
    omega
  rw [hp, Block.read_of_le hle, List.drop_left, List.take_left]

theorem ReadScalar_of_read {bytes : Bytes} (h : Block.read buf p w = some bytes) :
    ReadScalar buf w p = .ok (scalarOf bytes) := by
  rw [ReadScalar, h]
  rfl

/-- A scalar at the lower end of `m`. -/
theorem at_scalar (rest : Bytes) (hw : 0 < w) (he : e < 256 ^ w) :
    At (fun buf p => ReadScalar buf w p = .ok e) (scalarBytes w e ++ rest) (scalarBytes w e ++ rest).length := by
  refine ⟨?_, le_rfl, fun buf hbuf => ?_⟩
  · rw [List.length_append, length_scalarBytes]
    omega
  · have hread := read_lowest hbuf
    rw [length_scalarBytes] at hread
    rw [ReadScalar_of_read hread, scalarOf_scalarBytes_of_lt he]

/-- What is stored at `q` leads to what is `off` bytes before the end. -/
def Refers (off : ℕ) (buf : Bytes) (q : ℕ) : Prop := ∃ d, ReadScalar buf 4 q = .ok d ∧ q + d = buf.length - off

/-- A reference at the lower end of `m`. -/
theorem at_Refers {d off : ℕ} (rest : Bytes) (hd : d < 256 ^ 4) (hoff : d + off = (scalarBytes 4 d ++ rest).length) :
    At (Refers off) (scalarBytes 4 d ++ rest) (scalarBytes 4 d ++ rest).length := by
  have hat := at_scalar rest (by omega) hd
  refine ⟨hat.pos, hat.le, fun buf hbuf => ⟨d, hat.holds buf hbuf, ?_⟩⟩
  have hle := hbuf.length_le
  omega

end reading

/-! ## Vtables -/

/-- Where the fields of a table under construction are. -/
structure FieldsAt (locs : List FieldLoc) (start size top : ℕ) : Prop where
  nodup : (locs.map FieldLoc.id).Nodup
  id : ∀ l ∈ locs, l.id % 2 = 0 ∧ 4 ≤ l.id ∧ l.id + 2 ≤ top
  off : ∀ l ∈ locs, start < l.off ∧ l.off ≤ size

/-- A vtable of `top` bytes for a table at `loc`, once the offsets of `done` are written. -/
structure Vtable (top loc : ℕ) (done : List FieldLoc) (vt : Bytes) : Prop where
  length : vt.length = top
  vtsize : scalarOf (sub vt 0 2) = top
  written : ∀ l ∈ done, scalarOf (sub vt l.id 2) = loc - l.off
  zero : ∀ id, id % 2 = 0 → 4 ≤ id → id + 2 ≤ top → id ∉ done.map FieldLoc.id → scalarOf (sub vt id 2) = 0

section vtable

variable {top loc start size : ℕ} {done locs : List FieldLoc} {vt : Bytes} {l : FieldLoc}

/-- The vtable with its two sizes, before any offset is written. -/
theorem vtable_nil (table_object_size : ℕ) (htop : 4 ≤ top) (hlt : top < 0x10000) :
    Vtable top loc []
      (overwrite (overwrite (List.replicate top 0) 2 (scalarBytes 2 table_object_size)) 0 (scalarBytes 2 top)) := by
  have hlen : (List.replicate top (0 : UInt8)).length = top := List.length_replicate
  have hfirst : (overwrite (List.replicate top 0) 2 (scalarBytes 2 table_object_size)).length = top := by
    rw [length_overwrite (by rw [hlen, length_scalarBytes]; omega), hlen]
  refine ⟨?_, ?_, fun _ hl => absurd hl List.not_mem_nil, ?_⟩
  · rw [length_overwrite (by rw [hfirst, length_scalarBytes]; omega), hfirst]
  · have hread := sub_overwrite (scalarBytes 2 top)
      (Nat.zero_le (overwrite (List.replicate top 0) 2 (scalarBytes 2 table_object_size)).length)
    rw [length_scalarBytes] at hread
    rw [hread, scalarOf_scalarBytes_of_lt hlt]
  · intro id _ hid hidtop _
    have hzeros : sub (List.replicate top (0 : UInt8)) id 2 = List.replicate 2 0 := by
      rw [sub, List.drop_replicate, List.take_replicate, Nat.min_eq_left (by omega)]
    rw [sub_overwrite_of_disjoint (by rw [hfirst, length_scalarBytes]; omega) (by rw [hfirst]; omega)
        (by rw [length_scalarBytes]; omega),
      sub_overwrite_of_disjoint (by rw [hlen, length_scalarBytes]; omega) (by rw [hlen]; omega)
        (by rw [length_scalarBytes]; omega), hzeros, scalarOf_replicate_zero]

/-- One offset more. -/
theorem Vtable.write (h : Vtable top loc done vt) (hid : l.id % 2 = 0 ∧ 4 ≤ l.id ∧ l.id + 2 ≤ top)
    (hdone : ∀ l' ∈ done, l'.id % 2 = 0 ∧ l'.id + 2 ≤ top) (hnew : l.id ∉ done.map FieldLoc.id)
    (hlt : loc - l.off < 0x10000) :
    Vtable top loc (done ++ [l]) (overwrite vt l.id (scalarBytes 2 (loc - l.off))) := by
  obtain ⟨heven, hfour, htop⟩ := hid
  have hin : l.id + (scalarBytes 2 (loc - l.off)).length ≤ vt.length := by
    rw [length_scalarBytes, h.length]
    exact htop
  -- every other entry is apart from the one written
  have hframe : ∀ id, id % 2 = 0 → id + 2 ≤ top → id ≠ l.id →
      sub (overwrite vt l.id (scalarBytes 2 (loc - l.off))) id 2 = sub vt id 2 := by
    intro id hid hle hne
    apply sub_overwrite_of_disjoint hin (by rw [h.length]; exact hle)
    rw [length_scalarBytes]
    omega
  refine ⟨by rw [length_overwrite hin, h.length], ?_, ?_, ?_⟩
  · rw [hframe 0 rfl (by omega) (by omega), h.vtsize]
  · intro l' hl'
    rcases List.mem_append.mp hl' with hl' | hl'
    · have hne : l'.id ≠ l.id := by
        intro heq
        exact hnew (heq ▸ List.mem_map_of_mem hl')
      obtain ⟨heven', htop'⟩ := hdone l' hl'
      rw [hframe l'.id heven' htop' hne, h.written l' hl']
    · obtain rfl := List.mem_singleton.mp hl'
      have hread := sub_overwrite (scalarBytes 2 (loc - l'.off)) (show l'.id ≤ vt.length by omega)
      rw [length_scalarBytes] at hread
      rw [hread, scalarOf_scalarBytes_of_lt hlt]
  · intro id hid hfour' htop' hnot
    rw [List.map_append, List.mem_append, not_or] at hnot
    have hne : id ≠ l.id := by
      intro heq
      exact hnot.2 (by simp [heq])
    rw [hframe id hid htop' hne, h.zero id hid hfour' htop' hnot.1]

/-- **The loop over the fields** writes their offsets into the vtable. -/
theorem returns_writeOffsets {ndebug : Bool} {b : FlatBufferBuilder} (body : Bytes)
    (hlocs : FieldsAt locs start size top) (hloc : loc - start < 0x10000) (hbuf : b.buf_ = vt ++ body)
    (hvt : Vtable top loc [] vt) :
    Returns (forEach (writeOffset ndebug loc) locs) b fun _ t =>
      ∃ vt', t = { b with buf_ := vt' ++ body } ∧ Vtable top loc locs vt' := by
  refine returns_forEach (I := fun done t => ∃ vt', t = { b with buf_ := vt' ++ body } ∧ Vtable top loc done vt')
    ?_ ⟨vt, by rw [← hbuf], hvt⟩
  rintro done l rest _ hsplit ⟨vt', rfl, h⟩
  have hmem : ∀ l' ∈ done ++ [l], l' ∈ locs := by
    intro l' hl'
    rw [hsplit]
    simp only [List.mem_append, List.mem_cons] at hl' ⊢
    tauto
  have hl : l ∈ locs := hmem l (by simp)
  have hid := hlocs.id l hl
  have hnew : l.id ∉ done.map FieldLoc.id := by
    have hnodup := hlocs.nodup
    rw [hsplit, List.map_append, List.map_cons] at hnodup
    intro hin
    exact (List.nodup_append.mp hnodup).2.2 _ hin _ List.mem_cons_self rfl
  have hin : l.id + 2 ≤ vt'.length := by
    rw [h.length]
    exact hid.2.2
  have hzero : scalarOf (sub (vt' ++ body) l.id 2) = 0 := by
    rw [sub_append_left hin, h.zero l.id hid.1 hid.2.1 hid.2.2 hnew]
  have hlt : loc - l.off < 0x10000 := by
    have hoff := hlocs.off l hl
    omega
  unfold writeOffset
  apply returns_get_bind
  apply returns_lift_bind (cassert_ok hzero)
  apply returns_modify
  refine ⟨overwrite vt' l.id (scalarBytes 2 (loc - l.off)), ?_, ?_⟩
  · have happend := overwrite_append_left body
      (show l.id + (scalarBytes 2 (loc - l.off)).length ≤ vt'.length by rw [length_scalarBytes]; exact hin)
    rw [← happend]
  · refine h.write hid (fun l' hl' => ?_) hnew hlt
    have hid' := hlocs.id l' (hmem l' (by simp [hl']))
    exact ⟨hid'.1, hid'.2.2⟩

/-- The vtable `vt` is at `vt_offset`. -/
def HasVtable (vt : Bytes) (buf : Bytes) (p : ℕ) : Prop := Block.read buf p vt.length = some vt

theorem at_of_sameVtable {m : Bytes} {v : ℕ} (hle : v ≤ m.length) (hpos : 0 < vt.length)
    (h : slice m v vt.length = vt) : At (HasVtable vt) m v := by
  have hv : vt.length ≤ v := by
    have hlen := congrArg List.length h
    rw [slice, sub, List.length_take, List.length_drop] at hlen
    omega
  refine ⟨by omega, hle, ?_⟩
  rintro buf ⟨pre, rfl⟩
  have hin : v ≤ (pre ++ m).length := by
    rw [List.length_append]
    omega
  have hread : Block.read (pre ++ m) ((pre ++ m).length - v) vt.length = some (slice (pre ++ m) v vt.length) :=
    Block.read_of_le (by omega)
  rw [HasVtable, hread, slice_append pre hle, h]

/-- **A shared vtable is the one just written.** -/
theorem returns_useVtable {b : FlatBufferBuilder} {vt new old : Bytes} (hbuf : b.buf_ = vt ++ (new ++ old))
    (hvt : scalarOf (sub vt 0 2) = vt.length) (hpos : 2 ≤ vt.length) (hle : ∀ v ∈ b.vtables, v ≤ old.length) :
    Returns (useVtable (new ++ old).length) b fun vt_use t =>
      (t = b ∧ vt_use = b.buf_.length) ∨
        (t = { b with buf_ := new ++ old } ∧ vt_use ≤ old.length ∧ At (HasVtable vt) old vt_use) := by
  unfold useVtable
  apply returns_get_bind
  have hvtsize : sub b.buf_ 0 2 = sub vt 0 2 := by rw [hbuf, sub_append_left (by omega)]
  have hvt1 : sub b.buf_ 0 (scalarOf (sub b.buf_ 0 2)) = vt := by
    rw [hvtsize, hvt, hbuf, sub_append_left (by omega), sub, List.drop_zero, List.take_length]
  simp only [hvt1]
  generalize hfind : (if b.dedup_vtables_ then b.vtables.find? (sameVtable b.buf_ vt) else none) = found
  cases found with
  | none => exact returns_pure (Or.inl ⟨rfl, rfl⟩)
  | some v =>
    have hsome : b.vtables.find? (sameVtable b.buf_ vt) = some v := by
      split at hfind
      · exact hfind
      · cases hfind
    have hmem : v ∈ b.vtables := List.mem_of_find?_eq_some hsome
    have hsame : slice b.buf_ v vt.length = vt := by
      have hfound := List.find?_some hsome
      unfold sameVtable at hfound
      exact (of_decide_eq_true hfound).2
    have hold : slice old v vt.length = vt := by
      rw [hbuf, ← List.append_assoc, slice_append _ (hle v hmem)] at hsame
      exact hsame
    have hdrop : b.buf_.drop (b.buf_.length - (new ++ old).length) = new ++ old := by
      have hlen : b.buf_.length - (new ++ old).length = vt.length := by
        rw [hbuf, List.length_append]
        omega
      rw [hlen, hbuf, List.drop_left]
    apply returns_modify_bind
    rw [hdrop]
    exact returns_pure (Or.inr ⟨rfl, hle v hmem, at_of_sameVtable (hle v hmem) (by omega) hold⟩)

/-- **The vtable of a table under construction**, below everything else. -/
theorem returns_pushVtable {ndebug : Bool} {b : FlatBufferBuilder} (hstart : loc < start + 0x10000)
    (hlocs : FieldsAt b.field_locs start size (b.max_voffset_ + 2)) (hmax : b.max_voffset_ + 2 < 0x10000)
    (hroom : b.buf_.length < FLATBUFFERS_MAX_BUFFER_SIZE) :
    Returns (pushVtable ndebug start loc) b fun _ t =>
      ∃ vt, t = { b with buf_ := vt ++ b.buf_, field_locs := [], max_voffset_ := 0 } ∧
        Vtable (Nat.max (b.max_voffset_ + 2) 4) loc b.field_locs vt := by
  have hM : 4 ≤ Nat.max (b.max_voffset_ + 2) 4 := Nat.le_max_right _ _
  have hM' : b.max_voffset_ + 2 ≤ Nat.max (b.max_voffset_ + 2) 4 := Nat.le_max_left _ _
  have hlt : Nat.max (b.max_voffset_ + 2) 4 < 0x10000 := Nat.max_lt.mpr ⟨hmax, by omega⟩
  have hfields : FieldsAt b.field_locs start size (Nat.max (b.max_voffset_ + 2) 4) :=
    ⟨hlocs.nodup, fun l hl => ⟨(hlocs.id l hl).1, (hlocs.id l hl).2.1, le_trans (hlocs.id l hl).2.2 hM'⟩, hlocs.off⟩
  unfold pushVtable
  apply returns_modify_bind
  apply returns_get_bind
  have hFirst : FieldIndexToOffset 0 = 4 := rfl
  rw [hFirst]
  generalize hMeq : Nat.max (b.max_voffset_ + 2) 4 = M at *
  have hlen : (List.replicate M (0 : UInt8)).length = M := List.length_replicate
  refine (returns_push (b := { b with max_voffset_ := M })
    (Q := fun _ t => t = { b with buf_ := List.replicate M 0 ++ b.buf_, max_voffset_ := M }) hroom rfl).bind ?_
  rintro _ _ rfl
  apply returns_lift_bind (cassert_ok (by omega))
  apply returns_modify_bind
  apply returns_modify_bind
  refine (returns_writeOffsets b.buf_ hfields (by omega) ?_
    (vtable_nil (loc - start) hM hlt)).bind ?_
  · -- both sizes are written inside the vtable
    have hfirst : 2 + (scalarBytes 2 (loc - start)).length ≤ (List.replicate M (0 : UInt8)).length := by
      rw [length_scalarBytes, hlen]
      exact hM
    have hsecond : 0 + (scalarBytes 2 M).length ≤
        (overwrite (List.replicate M 0) 2 (scalarBytes 2 (loc - start))).length := by
      rw [length_overwrite hfirst, length_scalarBytes, hlen]
      omega
    show overwrite (overwrite (List.replicate M 0 ++ b.buf_) 2 _) 0 _ = _
    rw [overwrite_append_left _ hfirst, overwrite_append_left _ hsecond]
  · rintro _ _ ⟨vt, rfl, hvt⟩
    exact returns_modify ⟨vt, rfl, hvt⟩

end vtable

/-! ## The signed distance to the vtable -/

section soffset

variable {buf vt : Bytes} {vt_use loc id : ℕ}

/-- The distance that a table at `loc` stores. -/
def soffset (vt_use loc : ℕ) : ℕ := (Int32.ofInt (vt_use - loc)).toUInt32.toNat

theorem soffset_lt (vt_use loc : ℕ) : soffset vt_use loc < 256 ^ 4 := UInt32.toNat_lt _

theorem GetVTable_eq (hs : ReadScalar buf 4 (buf.length - loc) = .ok (soffset vt_use loc)) (hvt : vt_use ≤ buf.length)
    (hloc : loc ≤ buf.length) (hvt' : vt_use < 2 ^ 31) (hloc' : loc < 2 ^ 31) :
    GetVTable buf (buf.length - loc) = .ok (buf.length - vt_use) := by
  have hint : (UInt32.ofNat (soffset vt_use loc)).toInt32.toInt = (vt_use : ℤ) - loc := by
    rw [soffset, UInt32.ofNat_toNat, Int32.toInt32_toUInt32, Int32.toInt_ofInt_of_le (by omega) (by omega)]
  have hvtable : ((buf.length - loc : ℕ) : ℤ) - ((vt_use : ℤ) - loc) = (buf.length - vt_use : ℕ) := by omega
  unfold GetVTable
  rw [hs, ok_bind]
  simp only [hint, hvtable]
  rw [if_pos (Int.natCast_nonneg _), Int.toNat_natCast]
  rfl

/-- **What `GetOptionalFieldOffset` finds** through the vtable. -/
theorem GetOptionalFieldOffset_eq (hs : ReadScalar buf 4 (buf.length - loc) = .ok (soffset vt_use loc))
    (hread : HasVtable vt buf (buf.length - vt_use)) (hvtsize : scalarOf (sub vt 0 2) = vt.length)
    (hpos : 2 ≤ vt.length) (hvt : vt_use ≤ buf.length) (hloc : loc ≤ buf.length) (hvt' : vt_use < 2 ^ 31)
    (hloc' : loc < 2 ^ 31) (hid : id < vt.length → id + 2 ≤ vt.length) :
    GetOptionalFieldOffset buf (buf.length - loc) id =
      .ok (if id < vt.length then scalarOf (sub vt id 2) else 0) := by
  unfold HasVtable at hread
  have hle : buf.length - vt_use + vt.length ≤ buf.length := by
    by_contra hnot
    rw [Block.read_eq_none.mpr (by omega)] at hread
    cases hread
  rw [Block.read_of_le hle] at hread
  have hsub : sub buf (buf.length - vt_use) vt.length = vt := Option.some.inj hread
  -- an entry of the vtable
  have hentry : ∀ i, i + 2 ≤ vt.length →
      ReadScalar buf 2 (buf.length - vt_use + i) = .ok (scalarOf (sub vt i 2)) := by
    intro i hi
    have hin : Block.read buf (buf.length - vt_use + i) 2 = some (sub buf (buf.length - vt_use + i) 2) :=
      Block.read_of_le (by omega)
    rw [ReadScalar_of_read hin]
    conv_rhs => rw [← hsub, sub_sub hi]
  have hsize := hentry 0 hpos
  rw [Nat.add_zero, hvtsize] at hsize
  unfold GetOptionalFieldOffset
  rw [GetVTable_eq hs hvt hloc hvt' hloc', ok_bind, hsize, ok_bind]
  split
  · rename_i hlt
    exact hentry id (hid hlt)
  · rfl

end soffset

/-! ## Tables -/

namespace FlatBufferBuilder

/-- The builder is between two objects. -/
structure Clean (b : FlatBufferBuilder) : Prop where
  nested : b.nested = false
  field_locs : b.field_locs = []
  max_voffset : b.max_voffset_ = 0
  vtables : ∀ v ∈ b.vtables, v ≤ b.buf_.length
  minalign : Aligned b.minalign_

/-- From `b`, at most `n` bytes were added, and the builder is between two objects again. -/
structure Grows (b t : FlatBufferBuilder) (n : ℕ) : Prop where
  suffix : b.buf_ <:+ t.buf_
  length : t.buf_.length ≤ b.buf_.length + n
  clean : t.Clean

theorem returns_NotNested_bind {ndebug : Bool} {b : FlatBufferBuilder} {α : Type} {f : Unit → Build α}
    {Q : α → FlatBufferBuilder → Prop} (hclean : b.Clean) (h : Returns (f ()) b Q) :
    Returns (NotNested ndebug >>= f) b Q := by
  have hrun : (NotNested ndebug).run b = (b, .ok ()) := by
    unfold NotNested
    rw [run_get_bind, cassert_ok hclean.nested, run_lift_ok_bind, run_lift, cassert_ok hclean.field_locs]
  obtain ⟨t, a, hr, ha⟩ := h
  exact ⟨t, a, by rw [run_bind_ok hrun, hr], ha⟩

end FlatBufferBuilder

/-- The fields that a table has are those in `locs`. -/
def HasFields (locs : List FieldLoc) (loc : ℕ) (buf : Bytes) (p : ℕ) : Prop :=
  (∀ l ∈ locs, GetOptionalFieldOffset buf p l.id = .ok (loc - l.off)) ∧
    ∀ id, id % 2 = 0 → 4 ≤ id → id ∉ locs.map FieldLoc.id → GetOptionalFieldOffset buf p id = .ok 0

section

variable {M loc vt_use start size : ℕ} {locs : List FieldLoc} {vt rest : Bytes}

/-- A table whose vtable is at `vt_use`. -/
theorem at_HasFields (below : Bytes) (hvt : Vtable M loc locs vt) (hlocs : FieldsAt locs start size M) (hM : 2 ≤ M)
    (heven : M % 2 = 0) (hloc : (scalarBytes 4 (soffset vt_use loc) ++ rest).length = loc) (hlt : loc < 2 ^ 31)
    (hlt' : vt_use < 2 ^ 31)
    (huse : At (HasVtable vt) (below ++ (scalarBytes 4 (soffset vt_use loc) ++ rest)) vt_use) :
    At (HasFields locs loc) (below ++ (scalarBytes 4 (soffset vt_use loc) ++ rest)) loc := by
  have hs : At (fun buf p => ReadScalar buf 4 p = .ok (soffset vt_use loc))
      (below ++ (scalarBytes 4 (soffset vt_use loc) ++ rest)) loc := by
    have hlowest := at_scalar rest (by omega) (soffset_lt vt_use loc)
    rw [hloc] at hlowest
    exact hlowest.grow (List.suffix_append _ _)
  refine ⟨hs.pos, hs.le, fun buf hbuf => ?_⟩
  have hlength := hvt.length
  have hsize : scalarOf (sub vt 0 2) = vt.length := by rw [hvt.vtsize, hlength]
  have hle := hbuf.length_le
  have hle' := huse.le
  have hle'' := hs.le
  have hget : ∀ id, id % 2 = 0 → GetOptionalFieldOffset buf (buf.length - loc) id =
      .ok (if id < vt.length then scalarOf (sub vt id 2) else 0) := fun id hid =>
    GetOptionalFieldOffset_eq (hs.holds buf hbuf) (huse.holds buf hbuf) hsize (by omega) (by omega) (by omega) hlt' hlt
      (by omega)
  constructor
  · intro l hl
    obtain ⟨hid, -, hin⟩ := hlocs.id l hl
    rw [hget l.id hid, if_pos (by omega), hvt.written l hl]
  · intro id hid hfour hnot
    rw [hget id hid]
    split
    · rw [hvt.zero id hid hfour (by omega) hnot]
    · rfl

end

/-- **The end of a table**: its fields are found through the vtable, new or shared. -/
theorem returns_EndTable {ndebug : Bool} {b : FlatBufferBuilder} {start top : ℕ} (hnested : b.nested = true)
    (hvtables : ∀ v ∈ b.vtables, v ≤ b.buf_.length) (hm : Aligned b.minalign_)
    (hlocs : FieldsAt b.field_locs start b.buf_.length (b.max_voffset_ + 2)) (heven : b.max_voffset_ % 2 = 0)
    (hmax : b.max_voffset_ ≤ top) (htop : top + 2 < 0x10000) (hstart : b.buf_.length + 8 < start + 0x10000)
    (hroom : b.buf_.length + top + 16 < FLATBUFFERS_MAX_BUFFER_SIZE) :
    Returns (EndTable ndebug start) b fun loc t =>
      b.buf_.length < loc ∧ Grows b t (top + 16) ∧ At (HasFields b.field_locs loc) t.buf_ loc := by
  have hw : Aligned 4 := Or.inr (Or.inr (Or.inl rfl))
  have hbound : FLATBUFFERS_MAX_BUFFER_SIZE < 2 ^ 31 := by decide
  unfold EndTable
  apply returns_get_bind
  apply returns_lift_bind (cassert_ok hnested)
  refine (returns_PushElement (Q := fun loc t => ∃ k m, k < 4 ∧ Aligned m ∧ loc = b.buf_.length + k + 4 ∧
    t = b.add (scalarBytes 4 0 ++ List.replicate k 0) m) hw (by omega)
    fun k m hk => ⟨k, m, hk.lt, hk.minalign hm, rfl, rfl⟩).bind ?_
  rintro _ _ ⟨k, m, hk, hm', rfl, rfl⟩
  generalize hloceq : b.buf_.length + k + 4 = loc
  have hlen : (scalarBytes 4 0 ++ List.replicate k 0 ++ b.buf_).length = loc := by
    simp only [List.length_append, length_scalarBytes, List.length_replicate]
    omega
  refine (returns_pushVtable (b := b.add (scalarBytes 4 0 ++ List.replicate k 0) m) (by omega) hlocs
    (by rw [add_max_voffset]; omega) (by rw [add_buf, hlen]; omega)).bind ?_
  rintro _ _ ⟨vt, rfl, hvt⟩
  simp only [add_max_voffset, add_field_locs] at hvt
  rw [add_buf]
  generalize hM : Nat.max (b.max_voffset_ + 2) 4 = M at hvt
  have hMtop : M ≤ top + 4 := by
    rw [← hM]
    exact Nat.max_le.mpr ⟨by omega, by omega⟩
  have hMmax : b.max_voffset_ + 2 ≤ M := hM ▸ Nat.le_max_left _ _
  have hMfour : 4 ≤ M := hM ▸ Nat.le_max_right _ _
  have hMeven : M % 2 = 0 := by
    have hcases : M = b.max_voffset_ + 2 ∨ M = 4 := by
      rw [← hM]
      exact max_choice _ _
    omega
  have hfields : FieldsAt b.field_locs start b.buf_.length M :=
    ⟨hlocs.nodup, fun l hl => ⟨(hlocs.id l hl).1, (hlocs.id l hl).2.1, le_trans (hlocs.id l hl).2.2 hMmax⟩, hlocs.off⟩
  have hvtlen := hvt.length
  have hsize : scalarOf (sub vt 0 2) = vt.length := by rw [hvt.vtsize, hvtlen]
  -- the place of the distance to the vtable
  have hput : ∀ (below : Bytes) (s : ℕ),
      overwrite (below ++ (scalarBytes 4 0 ++ List.replicate k 0 ++ b.buf_))
        ((below ++ (scalarBytes 4 0 ++ List.replicate k 0 ++ b.buf_)).length - loc) (scalarBytes 4 s) =
      below ++ (scalarBytes 4 s ++ (List.replicate k 0 ++ b.buf_)) := by
    intro below s
    have hbelow : (below ++ (scalarBytes 4 0 ++ List.replicate k 0 ++ b.buf_)).length - loc = below.length := by
      rw [List.length_append, hlen]
      omega
    have hover := overwrite_block below (List.replicate k 0 ++ b.buf_)
      (show (scalarBytes 4 s).length = (scalarBytes 4 0).length by rw [length_scalarBytes, length_scalarBytes])
    rw [hbelow]
    simpa only [List.append_assoc] using hover
  have hrest : ∀ s, (scalarBytes 4 s ++ (List.replicate k 0 ++ b.buf_)).length = loc := by
    intro s
    rw [← hlen]
    simp only [List.length_append, length_scalarBytes, List.length_replicate]
    omega
  have hsuffix : ∀ (below : Bytes) (s : ℕ), b.buf_ <:+ below ++ (scalarBytes 4 s ++ (List.replicate k 0 ++ b.buf_)) :=
    fun below s => ⟨below ++ (scalarBytes 4 s ++ List.replicate k 0), by simp only [List.append_assoc]⟩
  have huse := returns_useVtable
    (b := { b with
      buf_ := vt ++ (scalarBytes 4 0 ++ List.replicate k 0 ++ b.buf_)
      minalign_ := m
      field_locs := []
      max_voffset_ := 0 })
    rfl hsize (by omega) hvtables
  rw [hlen] at huse
  refine huse.bind ?_
  rintro vt_use _ (⟨rfl, huseeq⟩ | ⟨rfl, hle, hat⟩)
  · -- the new vtable
    have huselen : vt_use = M + loc := by rw [huseeq, List.length_append, hvtlen, hlen]
    apply returns_GetSize_bind
    rw [if_pos huseeq]
    apply returns_ensure_space_bind (by dsimp only; rw [List.length_append, hvtlen, hlen]; omega)
    apply returns_modify_bind
    apply returns_modify_bind
    apply returns_pure
    rw [hput]
    refine ⟨by omega, ⟨hsuffix _ _, ?_, rfl, rfl, rfl, ?_, hm'⟩, ?_⟩
    · rw [List.length_append, hrest, hvtlen]
      omega
    · intro v hv
      rw [List.length_append, hrest, hvtlen]
      rcases List.mem_append.mp hv with hv | hv
      · have := hvtables v hv
        omega
      · rw [List.mem_singleton.mp hv, huselen]
    · refine at_HasFields vt hvt hfields (by omega) hMeven (hrest _) (by omega) (by omega) ⟨by omega, ?_, ?_⟩
      · rw [List.length_append, List.length_append, length_scalarBytes, List.length_append, List.length_replicate,
          hvtlen]
        omega
      · intro buf hbuf
        have hread := read_lowest hbuf
        rw [List.length_append, hrest, hvtlen] at hread
        rw [huselen, HasVtable, hvtlen]
        exact hread
  · -- an older one
    have hne : vt_use ≠ loc := by omega
    apply returns_GetSize_bind
    rw [hlen, if_neg hne]
    apply returns_modify_bind
    apply returns_pure
    have hput' := hput [] (soffset vt_use loc)
    simp only [List.nil_append] at hput'
    rw [soffset] at hput'
    rw [hput']
    have hsuffix' := hsuffix [] (soffset vt_use loc)
    rw [List.nil_append] at hsuffix'
    refine ⟨by omega, ⟨hsuffix', ?_, rfl, rfl, rfl, ?_, hm'⟩, ?_⟩
    · rw [hrest]
      omega
    · intro v hv
      have := hvtables v hv
      rw [hrest]
      omega
    · have hfinal := at_HasFields [] hvt hfields (by omega) hMeven (hrest _) (by omega) (by omega)
        (hat.grow (hsuffix [] (soffset vt_use loc)))
      exact hfinal

end MfxProxy.Flatbuffers
