import MfxProxy.Proof.Flatbuffers.Table

/-!
# The fields of a table

* `Slot.returns_add`: a field is left out, or stored below what is there.
* `UnderConstruction`: where the fields added so far are, kept by each (`UnderConstruction.add`).
* `returns_CreateTable`: the readers find each field of a finished table, in whatever order
  the fields were added.
-/

namespace MfxProxy.Flatbuffers

open Lib Prog FlatBufferBuilder

namespace Slot

/-- The field is left out. -/
def Absent : Slot → Prop
  | AddElement _ _ e default => e = default
  | AddOffset _ off => off = 0
  | AddStruct _ _ structptr => structptr = none

/-- The field is stored at `q`. -/
def Stored (buf : Bytes) (q : ℕ) : Slot → Prop
  | AddElement w _ e _ => ReadScalar buf w q = .ok e
  | AddOffset _ off => off ≠ 0 ∧ Refers off buf q
  | AddStruct _ _ structptr => ∃ bytes, structptr = some bytes ∧ Block.read buf q bytes.length = some bytes

/-- The field can be added to a buffer of `n` bytes. -/
def Fits (n : ℕ) : Slot → Prop
  | AddElement w _ e _ => Aligned w ∧ e < 256 ^ w
  | AddOffset _ off => off ≤ n
  | AddStruct alignment _ structptr => Aligned alignment ∧ ∀ bytes ∈ structptr, 0 < bytes.length ∧ bytes.length ≤ 8

theorem Fits.mono {s : Slot} {m n : ℕ} (h : s.Fits m) (hmn : m ≤ n) : s.Fits n := by
  cases s with
  | AddElement => exact h
  | AddOffset => exact le_trans h hmn
  | AddStruct => exact h

/-- What adding a field does: nothing, or bytes are added and the field is tracked. -/
def Adds (s : Slot) (b t : FlatBufferBuilder) : Prop :=
  (t = b ∧ s.Absent) ∨ ∃ new m, 0 < new.length ∧ new.length ≤ 16 ∧ Aligned m ∧
    t = { b.add new m with
      field_locs := b.field_locs ++ [⟨new.length + b.buf_.length, s.field⟩]
      max_voffset_ := if s.field > b.max_voffset_ then s.field else b.max_voffset_ } ∧
    At (fun buf q => s.Stored buf q) t.buf_ (new.length + b.buf_.length)

section add

variable {ndebug : Bool} {b : FlatBufferBuilder}

theorem returns_AddElement {w field e default : ℕ} (hfit : (AddElement w field e default).Fits b.buf_.length)
    (hm : Aligned b.minalign_) (hroom : b.buf_.length + 16 < FLATBUFFERS_MAX_BUFFER_SIZE) :
    Returns (FlatBufferBuilder.AddElement ndebug w field e default) b
      fun _ t => (AddElement w field e default).Adds b t := by
  obtain ⟨hw, he⟩ := hfit
  have hwidth : 0 < w ∧ w ≤ 8 := by rcases hw with rfl | rfl | rfl | rfl <;> omega
  unfold FlatBufferBuilder.AddElement
  apply returns_get_bind
  split
  · rename_i hdefault
    exact returns_pure (Or.inl ⟨rfl, hdefault.1⟩)
  · refine (returns_PushElement (Q := fun off t => ∃ k m, k < w ∧ Aligned m ∧ off = b.buf_.length + k + w ∧
      t = b.add (scalarBytes w e ++ List.replicate k 0) m) hw (by omega)
      fun k m hk => ⟨k, m, hk.lt, hk.minalign hm, rfl, rfl⟩).bind ?_
    rintro _ _ ⟨k, m, hk, hm', rfl, rfl⟩
    have hlen : (scalarBytes w e ++ List.replicate k 0).length = w + k := by
      rw [List.length_append, length_scalarBytes, List.length_replicate]
    have hoff : b.buf_.length + k + w = (scalarBytes w e ++ List.replicate k 0).length + b.buf_.length := by
      rw [hlen]
      omega
    have hat := at_scalar (List.replicate k 0 ++ b.buf_) hwidth.1 he
    apply returns_ensure_space_bind (by rw [length_add]; omega)
    apply returns_modify
    rw [hoff]
    refine Or.inr ⟨_, m, by omega, by omega, hm', rfl, ?_⟩
    rw [← List.append_assoc, List.length_append] at hat
    exact hat

theorem returns_AddOffset {field off : ℕ} (hfit : (AddOffset field off).Fits b.buf_.length)
    (hm : Aligned b.minalign_) (hroom : b.buf_.length + 16 < FLATBUFFERS_MAX_BUFFER_SIZE) :
    Returns (FlatBufferBuilder.AddOffset ndebug field off) b fun _ t => (AddOffset field off).Adds b t := by
  have hfit : off ≤ b.buf_.length := hfit
  have hw : Aligned 4 := Or.inr (Or.inr (Or.inl rfl))
  have hbound : FLATBUFFERS_MAX_BUFFER_SIZE < 256 ^ 4 := by decide
  unfold FlatBufferBuilder.AddOffset
  split
  · rename_i hzero
    exact returns_pure (Or.inl ⟨rfl, hzero⟩)
  · rename_i hne
    refine (returns_ReferTo (Q := fun e t => ∃ k m, Pads b 0 4 k m ∧ e = b.buf_.length + k - off + 4 ∧
      t = b.add (List.replicate k 0) m) (by omega) hfit (by omega) fun k m hk => ⟨k, m, hk, rfl, rfl⟩).bind ?_
    rintro _ _ ⟨k, m, hk, rfl, rfl⟩
    have hlt := hk.lt
    have haligned := hk.aligned
    have hlen : (b.add (List.replicate k 0) m).buf_.length = b.buf_.length + k := by
      rw [length_add, List.length_replicate]
      omega
    unfold FlatBufferBuilder.AddElement
    apply returns_get_bind
    rw [if_neg (by omega)]
    generalize he : b.buf_.length + k - off + 4 = e
    refine (returns_PushElement_aligned (Q := fun off t => ∃ m, Aligned m ∧ off = b.buf_.length + k + 4 ∧
      t = b.add (scalarBytes 4 e ++ List.replicate k 0) m) hw (by rw [hlen]; omega) (by rw [hlen]; omega)
      fun m' hm' => ⟨m', hm' (hk.minalign hm), by rw [hlen], add_add _ _ _ _⟩).bind ?_
    rintro _ _ ⟨m', hm', rfl, rfl⟩
    have hnew : (scalarBytes 4 e ++ List.replicate k 0).length = 4 + k := by
      rw [List.length_append, length_scalarBytes, List.length_replicate]
    have hoff : b.buf_.length + k + 4 = (scalarBytes 4 e ++ List.replicate k 0).length + b.buf_.length := by
      rw [hnew]
      omega
    have hplace : e + off = (scalarBytes 4 e ++ (List.replicate k 0 ++ b.buf_)).length := by
      rw [← List.append_assoc, List.length_append]
      omega
    have hat := at_Refers _ (show e < 256 ^ 4 by omega) hplace
    apply returns_ensure_space_bind (by rw [length_add]; omega)
    apply returns_modify
    rw [hoff]
    refine Or.inr ⟨_, m', by omega, by omega, hm', rfl, ?_⟩
    rw [← List.append_assoc, List.length_append] at hat
    exact hat.mono fun buf q hrefers => ⟨hne, hrefers⟩

theorem returns_AddStruct {alignment field : ℕ} {structptr : Option Bytes}
    (hfit : (AddStruct alignment field structptr).Fits b.buf_.length) (hm : Aligned b.minalign_)
    (hroom : b.buf_.length + 16 < FLATBUFFERS_MAX_BUFFER_SIZE) :
    Returns (FlatBufferBuilder.AddStruct ndebug alignment field structptr) b
      fun _ t => (AddStruct alignment field structptr).Adds b t := by
  obtain ⟨hw, hbytes⟩ := hfit
  have hwidth : alignment ≤ 8 := by rcases hw with rfl | rfl | rfl | rfl <;> omega
  cases structptr with
  | none => exact returns_pure (Or.inl ⟨rfl, rfl⟩)
  | some bytes =>
    obtain ⟨hpos, hle⟩ := hbytes bytes rfl
    unfold FlatBufferBuilder.AddStruct
    refine (returns_Align (Q := fun _ t => ∃ k m, k < alignment ∧ Aligned m ∧ t = b.add (List.replicate k 0) m) hw
      (by omega) fun k m hk => ⟨k, m, hk.lt, hk.minalign hm, rfl⟩).bind ?_
    rintro _ _ ⟨k, m, hk, hm', rfl⟩
    have hsize : (b.add (List.replicate k 0) m).buf_.length < FLATBUFFERS_MAX_BUFFER_SIZE := by
      rw [length_add, List.length_replicate]
      omega
    refine (returns_push (Q := fun _ t => t = b.add (bytes ++ List.replicate k 0) m) hsize (add_add _ _ _ _)).bind ?_
    rintro _ _ rfl
    have hnew : (bytes ++ List.replicate k 0).length = bytes.length + k := by
      rw [List.length_append, List.length_replicate]
    apply returns_GetSize_bind
    apply returns_ensure_space_bind (by rw [length_add]; omega)
    apply returns_modify
    rw [length_add]
    refine Or.inr ⟨_, m, by omega, by omega, hm', rfl, ?_, ?_, fun buf hbuf => ⟨bytes, rfl, ?_⟩⟩
    · omega
    · rw [← length_add]
    · have hbuf' : bytes ++ (List.replicate k 0 ++ b.buf_) <:+ buf := by
        rw [← List.append_assoc]
        exact hbuf
      have hread := read_lowest hbuf'
      rw [← List.append_assoc, List.length_append] at hread
      exact hread

/-- **One field.** -/
theorem returns_add {s : Slot} (hfit : s.Fits b.buf_.length) (hm : Aligned b.minalign_)
    (hroom : b.buf_.length + 16 < FLATBUFFERS_MAX_BUFFER_SIZE) :
    Returns (s.add ndebug) b fun _ t => s.Adds b t := by
  cases s with
  | AddElement => exact returns_AddElement hfit hm hroom
  | AddOffset => exact returns_AddOffset hfit hm hroom
  | AddStruct => exact returns_AddStruct hfit hm hroom

end add

end Slot

/-! ## Tables -/

/-- The field as the readers of a table at `p` see it. -/
def Slot.Reads (buf : Bytes) (p : ℕ) (s : Slot) : Prop :=
  ∃ o, GetOptionalFieldOffset buf p s.field = .ok o ∧ (o = 0 ∧ s.Absent ∨ o ≠ 0 ∧ s.Stored buf (p + o))

/-- `t` has a table under construction that began at `b` and has the fields `done` so far. -/
structure UnderConstruction (b : FlatBufferBuilder) (done : List Slot) (t : FlatBufferBuilder) : Prop where
  nested : t.nested = true
  vtables : t.vtables = b.vtables
  minalign : Aligned t.minalign_
  suffix : b.buf_ <:+ t.buf_
  length : t.buf_.length ≤ b.buf_.length + 16 * done.length
  max : t.max_voffset_ = 0 ∨ t.max_voffset_ ∈ done.map Slot.field
  le_max : ∀ l ∈ t.field_locs, l.id ≤ t.max_voffset_
  nodup : (t.field_locs.map FieldLoc.id).Nodup
  ids : ∀ l ∈ t.field_locs, l.id ∈ done.map Slot.field
  off : ∀ l ∈ t.field_locs, b.buf_.length < l.off ∧ l.off ≤ t.buf_.length
  fields : ∀ s ∈ done, (s.Absent ∧ s.field ∉ t.field_locs.map FieldLoc.id) ∨
    ∃ l ∈ t.field_locs, l.id = s.field ∧ At (fun buf q => s.Stored buf q) t.buf_ l.off

section table

variable {ndebug : Bool} {b t u : FlatBufferBuilder} {done slots : List Slot} {s : Slot}

/-- **A field more.** -/
theorem UnderConstruction.add (h : UnderConstruction b done t) (hadd : s.Adds t u)
    (hnew : s.field ∉ done.map Slot.field) : UnderConstruction b (done ++ [s]) u := by
  have hfresh : s.field ∉ t.field_locs.map FieldLoc.id := by
    intro hin
    obtain ⟨l, hl, hid⟩ := List.mem_map.mp hin
    exact hnew (hid ▸ h.ids l hl)
  have hlength := h.length
  rcases hadd with ⟨rfl, habsent⟩ | ⟨new, m, hpos, hle, hm, rfl, hat⟩
  · refine ⟨h.nested, h.vtables, h.minalign, h.suffix, ?_, ?_, h.le_max, h.nodup, ?_, h.off, ?_⟩
    · rw [List.length_append, List.length_singleton]
      omega
    · rcases h.max with hmax | hmax
      · exact Or.inl hmax
      · exact Or.inr (by simp [hmax])
    · intro l hl
      simp [h.ids l hl]
    · intro s' hs'
      rcases List.mem_append.mp hs' with hs' | hs'
      · exact h.fields s' hs'
      · obtain rfl := List.mem_singleton.mp hs'
        exact Or.inl ⟨habsent, hfresh⟩
  · have hgrow : t.buf_ <:+ new ++ t.buf_ := List.suffix_append _ _
    refine ⟨h.nested, h.vtables, hm, h.suffix.trans hgrow, ?_, ?_, ?_, ?_, ?_, ?_, ?_⟩
    · rw [add_buf, List.length_append, List.length_append, List.length_singleton]
      omega
    · dsimp only
      split
      · exact Or.inr (by simp)
      · rcases h.max with hmax | hmax
        · exact Or.inl hmax
        · exact Or.inr (by rw [List.map_append]; exact List.mem_append_left _ hmax)
    · intro l hl
      have hmax : t.max_voffset_ ≤ (if s.field > t.max_voffset_ then s.field else t.max_voffset_) ∧
          s.field ≤ (if s.field > t.max_voffset_ then s.field else t.max_voffset_) := by
        split <;> omega
      rcases List.mem_append.mp hl with hl | hl
      · exact le_trans (h.le_max l hl) hmax.1
      · obtain rfl := List.mem_singleton.mp hl
        exact hmax.2
    · show ((t.field_locs ++ [_]).map FieldLoc.id).Nodup
      rw [List.map_append, List.map_singleton]
      refine List.nodup_append.mpr ⟨h.nodup, List.pairwise_singleton _ _, ?_⟩
      intro id hid id' hid' heq
      have hs : id' = s.field := List.mem_singleton.mp hid'
      rw [heq, hs] at hid
      exact hfresh hid
    · intro l hl
      rcases List.mem_append.mp hl with hl | hl
      · simp [h.ids l hl]
      · obtain rfl := List.mem_singleton.mp hl
        simp
    · intro l hl
      have hbase := h.suffix.length_le
      rw [add_buf, List.length_append]
      rcases List.mem_append.mp hl with hl | hl
      · have := h.off l hl
        omega
      · obtain rfl := List.mem_singleton.mp hl
        exact ⟨by dsimp only; omega, le_rfl⟩
    · intro s' hs'
      rcases List.mem_append.mp hs' with hs' | hs'
      · rcases h.fields s' hs' with ⟨habsent, hnot⟩ | ⟨l, hl, hid, hstored⟩
        · refine Or.inl ⟨habsent, ?_⟩
          intro hin
          rw [List.map_append, List.mem_append] at hin
          rcases hin with hin | hin
          · exact hnot hin
          · rw [List.map_singleton, List.mem_singleton] at hin
            have hs : s.field ∈ done.map Slot.field := List.mem_map.mpr ⟨s', hs', hin⟩
            exact hnew hs
        · exact Or.inr ⟨l, List.mem_append_left _ hl, hid, hstored.grow hgrow⟩
      · obtain rfl := List.mem_singleton.mp hs'
        exact Or.inr ⟨_, List.mem_append_right _ (List.mem_singleton.mpr rfl), rfl, hat⟩

/-- The fields of a finished table are read. -/
theorem UnderConstruction.reads (h : UnderConstruction b done t) {loc p : ℕ} {buf : Bytes}
    (hfields : HasFields t.field_locs loc buf p) (hp : p = buf.length - loc) (hloc : t.buf_.length < loc)
    (hle : loc ≤ buf.length) (hbuf : t.buf_ <:+ buf) (hs : s ∈ done) (hid : s.field % 2 = 0 ∧ 4 ≤ s.field) :
    s.Reads buf p := by
  subst hp
  rcases h.fields s hs with ⟨habsent, hnot⟩ | ⟨l, hl, hfield, hstored⟩
  · exact ⟨0, hfields.2 s.field hid.1 hid.2 hnot, Or.inl ⟨rfl, habsent⟩⟩
  · have hoff := h.off l hl
    refine ⟨loc - l.off, hfield ▸ hfields.1 l hl, Or.inr ⟨by omega, ?_⟩⟩
    have hplace : buf.length - loc + (loc - l.off) = buf.length - l.off := by omega
    rw [hplace]
    exact hstored.holds buf hbuf

theorem returns_StartTable (hclean : b.Clean) :
    Returns (StartTable ndebug) b fun start t => start = b.buf_.length ∧ UnderConstruction b [] t := by
  have hlocs := hclean.field_locs
  unfold StartTable
  apply returns_NotNested_bind hclean
  apply returns_modify_bind
  apply returns_GetSize
  refine ⟨rfl, rfl, rfl, hclean.minalign, List.suffix_refl _, le_rfl, Or.inl hclean.max_voffset, ?_, ?_, ?_, ?_, ?_⟩
  all_goals simp [hlocs]

/-- **A table is read as it was written**, in whatever order its fields were added. -/
theorem returns_CreateTable {G : FieldOrder} {top : ℕ} (hclean : b.Clean) (hfits : ∀ s ∈ slots, s.Fits b.buf_.length)
    (hids : (slots.map Slot.field).Nodup) (hfield : ∀ s ∈ slots, s.field % 2 = 0 ∧ 4 ≤ s.field ∧ s.field ≤ top)
    (htop : top + 2 < 0x10000) (hcount : 16 * slots.length + 8 < 0x10000)
    (hroom : b.buf_.length + 16 * slots.length + top + 32 < FLATBUFFERS_MAX_BUFFER_SIZE) :
    Returns (CreateTable ndebug G slots) b fun loc t =>
      Grows b t (16 * slots.length + top + 16) ∧ At (fun buf p => ∀ s ∈ slots, s.Reads buf p) t.buf_ loc := by
  have hperm := G.perm slots
  have hmem : ∀ s, s ∈ G.order slots ↔ s ∈ slots := fun s => hperm.mem_iff
  unfold CreateTable
  refine (returns_StartTable hclean).bind ?_
  rintro _ t ⟨rfl, ht⟩
  refine Returns.bind (returns_forEach (I := UnderConstruction b) ?_ ht) ?_
  · -- the fields
    intro done s rest t hsplit ht
    have hs : s ∈ slots := (hmem s).mp (by simp [hsplit])
    have hnew : s.field ∉ done.map Slot.field := by
      have hnodup := (hperm.map Slot.field).nodup_iff.mpr hids
      rw [hsplit, List.map_append, List.map_cons] at hnodup
      intro hin
      exact (List.nodup_append.mp hnodup).2.2 _ hin _ List.mem_cons_self rfl
    have hdone : done.length < slots.length := by
      rw [← hperm.length_eq, hsplit, List.length_append, List.length_cons]
      omega
    have hlength := ht.length
    exact (Slot.returns_add ((hfits s hs).mono ht.suffix.length_le) ht.minalign (by omega)).mono
      fun _ u hadd => ht.add hadd hnew
  · -- the end of the table
    rintro _ u hu
    have hlength := hu.length
    have hbase := hu.suffix.length_le
    rw [hperm.length_eq] at hlength
    have hfieldOf : ∀ f ∈ (G.order slots).map Slot.field, f % 2 = 0 ∧ 4 ≤ f ∧ f ≤ top := by
      intro f hf
      obtain ⟨s, hs, rfl⟩ := List.mem_map.mp hf
      exact hfield s ((hmem s).mp hs)
    have hmax : u.max_voffset_ % 2 = 0 ∧ u.max_voffset_ ≤ top := by
      rcases hu.max with hmax | hmax
      · rw [hmax]
        exact ⟨rfl, Nat.zero_le _⟩
      · obtain ⟨heven, -, hle⟩ := hfieldOf _ hmax
        exact ⟨heven, hle⟩
    have hlocs : FieldsAt u.field_locs b.buf_.length u.buf_.length (u.max_voffset_ + 2) := by
      refine ⟨hu.nodup, fun l hl => ?_, hu.off⟩
      obtain ⟨heven, hfour, -⟩ := hfieldOf _ (hu.ids l hl)
      have := hu.le_max l hl
      exact ⟨heven, hfour, by omega⟩
    have hvtables : ∀ v ∈ u.vtables, v ≤ u.buf_.length := by
      intro v hv
      rw [hu.vtables] at hv
      exact le_trans (hclean.vtables v hv) hbase
    refine (returns_EndTable hu.nested hvtables hu.minalign hlocs hmax.1 hmax.2 htop (by omega) (by omega)).mono ?_
    rintro loc v ⟨hafter, hgrows, hat⟩
    refine ⟨⟨hu.suffix.trans hgrows.suffix, ?_, hgrows.clean⟩, hat.pos, hat.le, fun buf hbuf s hs => ?_⟩
    · have := hgrows.length
      omega
    · obtain ⟨heven, hfour, -⟩ := hfield s hs
      have hle : loc ≤ buf.length := le_trans hat.le hbuf.length_le
      exact hu.reads (hat.holds buf hbuf) rfl hafter hle (hgrows.suffix.trans hbuf) ((hmem s).mpr hs) ⟨heven, hfour⟩

end table

end MfxProxy.Flatbuffers
