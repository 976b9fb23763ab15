import MfxProxy.Proof.Flatbuffers.Field
import MfxProxy.Proof.Flatbuffers.Vector

/-!
# Objects with their round trips

An `Object α` writes values as objects of a buffer and reads them back from a buffer that has
grown since; `Fields α` does so for the fields of a table. The round trip is a field, so a
layout that loses something cannot be built. `weight` bounds the bytes that a value takes.

* `Fields.scalar`, `Fields.struct`, `Fields.ref`, `Fields.union`, `Fields.pair`: fields.
* `Object.string`, `Object.scalars`, `Object.vector`, `Object.table`: what fields refer to.
-/

namespace MfxProxy.Flatbuffers

open Lib Prog FlatBufferBuilder

/-- A kind of object, with its round trip. -/
structure Object (α : Type) where
  write : α → Build ℕ
  read : Bytes → ℕ → Except Fault α
  weight : α → ℕ
  written : ∀ a b, b.Clean → b.buf_.length + weight a < FLATBUFFERS_MAX_BUFFER_SIZE →
    Returns (write a) b fun loc t => Grows b t (weight a) ∧ At (fun buf p => read buf p = .ok a) t.buf_ loc

/-- What the fields of a table are written from and read to, with the round trip. What the
fields refer to is written first. -/
structure Fields (α : Type) where
  ids : List ℕ
  write : α → Build (List Slot)
  read : Bytes → ℕ → Except Fault α
  weight : α → ℕ
  written : ∀ a b, b.Clean → b.buf_.length + weight a < FLATBUFFERS_MAX_BUFFER_SIZE →
    Returns (write a) b fun slots t => Grows b t (weight a) ∧ slots.map Slot.field = ids ∧
      (∀ s ∈ slots, s.Fits t.buf_.length) ∧
        ∀ buf p, t.buf_ <:+ buf → (∀ s ∈ slots, s.Reads buf p) → read buf p = .ok a

namespace FlatBufferBuilder

theorem Grows.refl {b : FlatBufferBuilder} (hclean : b.Clean) : Grows b b 0 :=
  ⟨List.suffix_refl _, le_rfl, hclean⟩

theorem Grows.trans {b t u : FlatBufferBuilder} {m n : ℕ} (h : Grows b t m) (h' : Grows t u n) : Grows b u (m + n) := by
  have hlen := h.length
  have hlen' := h'.length
  exact ⟨h.suffix.trans h'.suffix, by omega, h'.clean⟩

theorem Grows.mono {b t : FlatBufferBuilder} {m n : ℕ} (h : Grows b t m) (hmn : m ≤ n) : Grows b t n := by
  have hlen := h.length
  exact ⟨h.suffix, by omega, h.clean⟩

end FlatBufferBuilder

/-! ## How a field is read -/

section reads

variable {buf : Bytes} {p w field e default off alignment : ℕ} {bytes : Bytes}

theorem GetField_of_reads (h : (Slot.AddElement w field e default).Reads buf p) :
    GetField buf w p field default = .ok e := by
  obtain ⟨o, ho, h⟩ := h
  have ho : GetOptionalFieldOffset buf p field = .ok o := ho
  unfold GetField
  rw [ho, ok_bind]
  rcases h with ⟨rfl, habsent⟩ | ⟨hne, hstored⟩
  · have habsent : e = default := habsent
    rw [if_neg (by simp), habsent]
    rfl
  · rw [if_pos hne]
    exact hstored

theorem GetPointer_of_reads (h : (Slot.AddOffset field off).Reads buf p) :
    GetPointer buf p field = .ok (if off = 0 then none else some (buf.length - off)) := by
  obtain ⟨o, ho, h⟩ := h
  have ho : GetOptionalFieldOffset buf p field = .ok o := ho
  unfold GetPointer
  rw [ho, ok_bind]
  rcases h with ⟨rfl, habsent⟩ | ⟨hne, hoff, d, hd, hto⟩
  · have habsent : off = 0 := habsent
    rw [if_pos habsent]
    rfl
  · dsimp only
    rw [if_pos hne, if_neg hoff, hd, ok_bind, hto]
    rfl

theorem GetStruct_none_of_reads (h : (Slot.AddStruct alignment field none).Reads buf p) :
    GetStruct buf p field = .ok none := by
  obtain ⟨o, ho, h⟩ := h
  have ho : GetOptionalFieldOffset buf p field = .ok o := ho
  unfold GetStruct
  rw [ho, ok_bind]
  rcases h with ⟨rfl, -⟩ | ⟨-, hstored⟩
  · rfl
  · obtain ⟨_, hnone, -⟩ := hstored
    cases hnone

theorem GetStruct_some_of_reads (h : (Slot.AddStruct alignment field (some bytes)).Reads buf p) :
    ∃ q, GetStruct buf p field = .ok (some q) ∧ Block.read buf q bytes.length = some bytes := by
  obtain ⟨o, ho, h⟩ := h
  have ho : GetOptionalFieldOffset buf p field = .ok o := ho
  unfold GetStruct
  rw [ho, ok_bind]
  rcases h with ⟨-, hnone⟩ | ⟨hne, _, hsome, hread⟩
  · cases hnone
  · obtain rfl := Option.some.inj hsome
    exact ⟨p + o, by dsimp only; rw [if_pos hne]; rfl, hread⟩

end reads

/-! ## References to an object -/

namespace Object

variable {α : Type} (c : Object α)

/-- The offset of the object, zero for none. -/
def writeRef : Option α → Build ℕ
  | none => pure 0
  | some a => c.write a

def readRef (buf : Bytes) (p field : ℕ) : Except Fault (Option α) := do
  match ← GetPointer buf p field with
  | none => return none
  | some q =>
    let a ← c.read buf q
    return some a

def weightRef : Option α → ℕ
  | none => 0
  | some a => c.weight a

theorem written_ref (field : ℕ) (a : Option α) (b : FlatBufferBuilder) (hclean : b.Clean)
    (hroom : b.buf_.length + c.weightRef a < FLATBUFFERS_MAX_BUFFER_SIZE) :
    Returns (c.writeRef a) b fun off t => Grows b t (c.weightRef a) ∧ (Slot.AddOffset field off).Fits t.buf_.length ∧
      ∀ buf p, t.buf_ <:+ buf → (Slot.AddOffset field off).Reads buf p → c.readRef buf p field = .ok a := by
  cases a with
  | none =>
    refine returns_pure ⟨.refl hclean, Nat.zero_le _, fun buf p _ h => ?_⟩
    unfold readRef
    rw [GetPointer_of_reads h, if_pos rfl, ok_bind]
    rfl
  | some a =>
    refine (c.written a b hclean hroom).mono ?_
    rintro off t ⟨hgrows, hat⟩
    have hne : off ≠ 0 := Nat.pos_iff_ne_zero.mp hat.pos
    refine ⟨hgrows, hat.le, fun buf p hbuf h => ?_⟩
    unfold readRef
    rw [GetPointer_of_reads h, if_neg hne, ok_bind]
    dsimp only
    rw [hat.holds buf hbuf]
    rfl

end Object

/-! ## Fields -/

namespace Fields

variable {α β : Type}

/-- No field. -/
def unit : Fields Unit where
  ids := []
  write _ := pure []
  read _ _ := .ok ()
  weight _ := 0
  written _ _ hclean _ := returns_pure ⟨.refl hclean, rfl, fun _ hs => absurd hs List.not_mem_nil, fun _ _ _ _ => rfl⟩

/-- A scalar of `w` bytes. -/
def scalar (w field default : ℕ) (enc : α → ℕ) (dec : ℕ → α) (hw : Aligned w) (henc : ∀ a, enc a < 256 ^ w)
    (hdec : ∀ a, dec (enc a) = a) : Fields α where
  ids := [field]
  write a := pure [.AddElement w field (enc a) default]
  read buf p := do
    let e ← GetField buf w p field default
    return dec e
  weight _ := 0
  written a _ hclean _ := by
    apply returns_pure
    refine ⟨.refl hclean, rfl, ?_, fun buf p _ h => ?_⟩
    · intro s hs
      obtain rfl := List.mem_singleton.mp hs
      exact ⟨hw, henc a⟩
    · have hget := GetField_of_reads (h _ List.mem_cons_self)
      rw [hget, ok_bind, hdec]
      rfl

/-- A struct of `n` bytes. -/
def struct (n alignment field : ℕ) (enc : α → Bytes) (dec : Bytes → α) (hw : Aligned alignment)
    (hn : 0 < n ∧ n ≤ 8) (henc : ∀ a, (enc a).length = n) (hdec : ∀ a, dec (enc a) = a) : Fields (Option α) where
  ids := [field]
  write a := pure [.AddStruct alignment field (a.map enc)]
  read buf p := do
    match ← GetStruct buf p field with
    | none => return none
    | some q =>
      let bytes ← deref (Block.read buf q n)
      return some (dec bytes)
  weight _ := 0
  written a b hclean _ := by
    apply returns_pure
    refine ⟨.refl hclean, rfl, ?_, fun buf p _ h => ?_⟩
    · intro s hs
      obtain rfl := List.mem_singleton.mp hs
      refine ⟨hw, fun bytes hbytes => ?_⟩
      obtain ⟨a', -, rfl⟩ := Option.map_eq_some_iff.mp hbytes
      rw [henc]
      exact hn
    · have hreads := h _ List.mem_cons_self
      cases a with
      | none =>
        rw [GetStruct_none_of_reads hreads, ok_bind]
        rfl
      | some a =>
        obtain ⟨q, hq, hread⟩ := GetStruct_some_of_reads hreads
        rw [henc] at hread
        rw [hq, ok_bind]
        dsimp only
        rw [hread]
        show Except.ok (some (dec (enc a))) = _
        rw [hdec]

/-- A reference to an object, which may be missing. -/
def ref (field : ℕ) (c : Object α) : Fields (Option α) where
  ids := [field]
  write a := do
    let off ← c.writeRef a
    return [.AddOffset field off]
  read buf p := c.readRef buf p field
  weight := c.weightRef
  written a b hclean hroom := by
    refine (c.written_ref field a b hclean hroom).bind ?_
    rintro off t ⟨hgrows, hfits, hread⟩
    refine returns_pure ⟨hgrows, rfl, ?_, fun buf p hbuf h => hread buf p hbuf (h _ List.mem_cons_self)⟩
    intro s hs
    obtain rfl := List.mem_singleton.mp hs
    exact hfits

/-- A union: the type byte, and a reference to the table it tags. -/
def union {ι : Type} {β : ι → Type} (type_field field : ℕ) (enc : ι → ℕ) (dec : ℕ → ι) (henc : ∀ i, enc i < 256)
    (hdec : ∀ i, dec (enc i) = i) (c : ∀ i, Object (β i)) : Fields ((i : ι) × Option (β i)) where
  ids := [type_field, field]
  write a := do
    let off ← (c a.1).writeRef a.2
    return [.AddElement 1 type_field (enc a.1) 0, .AddOffset field off]
  read buf p := do
    let e ← GetField buf 1 p type_field 0
    let a ← (c (dec e)).readRef buf p field
    return ⟨dec e, a⟩
  weight a := (c a.1).weightRef a.2
  written := by
    rintro ⟨i, a⟩ b hclean hroom
    refine ((c i).written_ref field a b hclean hroom).bind ?_
    rintro off t ⟨hgrows, hfits, hread⟩
    refine returns_pure ⟨hgrows, rfl, ?_, fun buf p hbuf h => ?_⟩
    · intro s hs
      simp only [List.mem_cons, List.not_mem_nil, or_false] at hs
      rcases hs with rfl | rfl
      · exact ⟨Or.inl rfl, henc i⟩
      · exact hfits
    · rw [GetField_of_reads (h _ List.mem_cons_self), ok_bind, hdec,
        hread buf p hbuf (h _ (List.mem_cons_of_mem _ List.mem_cons_self)), ok_bind]
      rfl

/-- One list of fields after the other. -/
def pair (c : Fields α) (d : Fields β) : Fields (α × β) where
  ids := c.ids ++ d.ids
  write a := do
    let slots ← c.write a.1
    let slots' ← d.write a.2
    return slots ++ slots'
  read buf p := do
    let a ← c.read buf p
    let a' ← d.read buf p
    return (a, a')
  weight a := c.weight a.1 + d.weight a.2
  written a b hclean hroom := by
    refine (c.written a.1 b hclean (by omega)).bind ?_
    rintro slots t ⟨hgrows, hids, hfits, hread⟩
    have hlen := hgrows.length
    refine (d.written a.2 t hgrows.clean (by omega)).bind ?_
    rintro slots' u ⟨hgrows', hids', hfits', hread'⟩
    refine returns_pure ⟨hgrows.trans hgrows', by rw [List.map_append, hids, hids'], ?_, fun buf p hbuf h => ?_⟩
    · intro s hs
      rcases List.mem_append.mp hs with hs | hs
      · exact (hfits s hs).mono hgrows'.suffix.length_le
      · exact hfits' s hs
    · rw [hread buf p (hgrows'.suffix.trans hbuf) fun s hs => h s (List.mem_append_left _ hs), ok_bind,
        hread' buf p hbuf fun s hs => h s (List.mem_append_right _ hs), ok_bind]
      rfl

/-- Values written through another type. -/
def via (c : Fields α) (f : β → α) (g : α → β) (h : ∀ x, g (f x) = x) : Fields β where
  ids := c.ids
  write x := c.write (f x)
  read buf p := do
    let a ← c.read buf p
    return g a
  weight x := c.weight (f x)
  written x b hclean hroom := (c.written (f x) b hclean hroom).mono fun slots t ⟨hgrows, hids, hfits, hread⟩ =>
    ⟨hgrows, hids, hfits, fun buf p hbuf hs => by rw [hread buf p hbuf hs, ok_bind, h]; rfl⟩

end Fields

/-! ## Objects -/

/-- Ids that the vtable of a table can hold. -/
structure FieldIds (ids : List ℕ) (top : ℕ) : Prop where
  nodup : ids.Nodup
  id : ∀ id ∈ ids, id % 2 = 0 ∧ 4 ≤ id ∧ id ≤ top
  top : top + 2 < 0x10000
  count : 16 * ids.length + 8 < 0x10000

namespace Object

variable {α β : Type} (ndebug : Bool)

def empty : Object Empty where
  write := Empty.elim
  read _ _ := .error .undefined
  weight := Empty.elim
  written a := a.elim

/-- A table with these fields. -/
def table (G : FieldOrder) (top : ℕ) (F : Fields α) (h : FieldIds F.ids top) : Object α where
  write a := do
    let slots ← F.write a
    CreateTable ndebug G slots
  read := F.read
  weight a := F.weight a + (16 * F.ids.length + top + 32)
  written a b hclean hroom := by
    refine (F.written a b hclean (by omega)).bind ?_
    rintro slots t ⟨hgrows, hids, hfits, hread⟩
    have hlen := hgrows.length
    have hcount : slots.length = F.ids.length := by rw [← hids, List.length_map]
    have hfield : ∀ s ∈ slots, s.field % 2 = 0 ∧ 4 ≤ s.field ∧ s.field ≤ top := by
      intro s hs
      exact h.id _ (hids ▸ List.mem_map_of_mem hs)
    refine (returns_CreateTable hgrows.clean hfits (hids ▸ h.nodup) hfield h.top (by rw [hcount]; exact h.count)
      (by omega)).mono ?_
    rintro loc u ⟨hgrows', hat⟩
    refine ⟨(hgrows.trans hgrows').mono (by omega), hat.pos, hat.le, fun buf hbuf => ?_⟩
    exact hread buf _ (hgrows'.suffix.trans hbuf) (hat.holds buf hbuf)

/-- A string, on its bytes. -/
def string (enc : α → Bytes) (dec : Bytes → α) (hdec : ∀ a, dec (enc a) = a) : Object α where
  write a := CreateString ndebug (enc a)
  read buf p := do
    let bytes ← str buf p
    return dec bytes
  weight a := (enc a).length + 16
  written a b hclean hroom := (returns_CreateString hclean (by omega)).mono fun loc t ⟨hgrows, hat⟩ =>
    ⟨hgrows, hat.mono fun buf p h => by rw [h, ok_bind, hdec]; rfl⟩

/-- What a loop over the entries of a vector returns. -/
theorem mapM_range {f : ℕ → Except Fault α} {l : List α} (h : ∀ (i : ℕ) (_ : i < l.length), f i = .ok l[i]) :
    (List.range l.length).mapM f = .ok l := by
  induction l generalizing f with
  | nil => rfl
  | cons a l ih =>
    have hhead : f 0 = .ok a := h 0 (Nat.succ_pos _)
    have htail := ih (f := fun i => f (i + 1)) fun i hi => h (i + 1) (Nat.succ_lt_succ hi)
    rw [List.length_cons, List.range_succ_eq_map, List.mapM_cons, hhead, ok_bind, List.mapM_map]
    show (do let l ← (List.range l.length).mapM (fun i => f (i + 1)); pure (a :: l)) = _
    rw [htail]
    rfl

/-- A vector of scalars of `w` bytes. -/
def scalars (w : ℕ) (enc : α → ℕ) (dec : ℕ → α) (hw : Aligned w) (henc : ∀ a, enc a < 256 ^ w)
    (hdec : ∀ a, dec (enc a) = a) : Object (List α) where
  write l := CreateVector ndebug w (l.map enc)
  read buf p := do
    let n ← size buf p
    (List.range n).mapM fun i => do
      let e ← Get ndebug buf w p i
      return dec e
  weight l := l.length * w + 24
  written l b hclean hroom := by
    have hv : ∀ e ∈ l.map enc, e < 256 ^ w := by
      intro e he
      obtain ⟨a, -, rfl⟩ := List.mem_map.mp he
      exact henc a
    refine (returns_CreateVector hw hv hclean (by rw [List.length_map]; omega)).mono ?_
    rintro loc t ⟨hgrows, hat⟩
    rw [List.length_map] at hgrows
    refine ⟨hgrows, hat.mono fun buf p ⟨hsize, hget⟩ => ?_⟩
    rw [hsize, ok_bind, List.length_map]
    refine mapM_range fun i hi => ?_
    rw [hget i (by rw [List.length_map]; exact hi), ok_bind, List.getElem_map, hdec]
    rfl

variable (c : Object α)

/-- The objects of a vector, one after the other. -/
def writeAll : List α → Build (List ℕ)
  | [] => pure []
  | a :: l => do
    let off ← c.write a
    let offs ← writeAll l
    return off :: offs

theorem written_all (l : List α) (b : FlatBufferBuilder) (hclean : b.Clean)
    (hroom : b.buf_.length + (l.map c.weight).sum < FLATBUFFERS_MAX_BUFFER_SIZE) :
    Returns (c.writeAll l) b fun offs t => Grows b t (l.map c.weight).sum ∧ offs.length = l.length ∧
      ∀ (i : ℕ) (hi : i < l.length) (ho : i < offs.length),
        At (fun buf p => c.read buf p = .ok l[i]) t.buf_ offs[i] := by
  induction l generalizing b with
  | nil => exact returns_pure ⟨.refl hclean, rfl, fun i hi => absurd hi (Nat.not_lt_zero _)⟩
  | cons a l ih =>
    rw [List.map_cons, List.sum_cons] at hroom ⊢
    unfold writeAll
    refine (c.written a b hclean (by omega)).bind ?_
    rintro off t ⟨hgrows, hat⟩
    have hlen := hgrows.length
    refine (ih t hgrows.clean (by omega)).bind ?_
    rintro offs u ⟨hgrows', hcount, hats⟩
    refine returns_pure ⟨hgrows.trans hgrows', by rw [List.length_cons, List.length_cons, hcount], fun i hi ho => ?_⟩
    cases i with
    | zero => exact hat.grow hgrows'.suffix
    | succ i => exact hats i (Nat.lt_of_succ_lt_succ hi) (Nat.lt_of_succ_lt_succ ho)

/-- A vector of objects. -/
def vector : Object (List α) where
  write l := do
    let offs ← c.writeAll l
    CreateOffsetVector ndebug offs
  read buf p := do
    let n ← size buf p
    (List.range n).mapM fun i => do
      let q ← GetIndirect ndebug buf p i
      c.read buf q
  weight l := (l.map c.weight).sum + (4 * l.length + 24)
  written l b hclean hroom := by
    refine (c.written_all l b hclean (by omega)).bind ?_
    rintro offs t ⟨hgrows, hcount, hats⟩
    have hlen := hgrows.length
    have hoffs : ∀ off ∈ offs, 0 < off ∧ off ≤ t.buf_.length := by
      intro off hoff
      obtain ⟨i, hi, rfl⟩ := List.getElem_of_mem hoff
      have hat := hats i (by omega) hi
      exact ⟨hat.pos, hat.le⟩
    refine (returns_CreateOffsetVector hoffs hgrows.clean (by omega)).mono ?_
    rintro loc u ⟨hgrows', hat⟩
    refine ⟨(hgrows.trans hgrows').mono (by omega), hat.pos, hat.le, fun buf hbuf => ?_⟩
    obtain ⟨hsize, hget⟩ := hat.holds buf hbuf
    rw [hsize, ok_bind, hcount]
    refine mapM_range fun i hi => ?_
    have ho : i < offs.length := by omega
    rw [hget i ho, ok_bind]
    exact (hats i hi ho).holds buf (hgrows'.suffix.trans hbuf)

end Object

end MfxProxy.Flatbuffers
