import MfxProxy.Lib.Memory
import MfxProxy.Lib.Prog
import MfxProxy.Spec.Basic

/-!
# `FlatBufferBuilder`

The builder of the vendored `flatbuffers/flatbuffer_builder.h`, as far as generated code and
`make_message` use it. `vector_downward` is the list of the bytes from `cur_` up; what it
allocates below does not show. Its scratch pad is two lists: the vtables, and on top of
them the `FieldLoc`s of the table under construction.

An offset counts from the end of the buffer. Sizes and offsets are natural numbers, which
is what `uoffset_t` computes as long as the buffer stays below 4 GB, and `voffset_t` as long
as a vtable stays below 64 KB.
-/

namespace MfxProxy.Flatbuffers

open Lib

def FLATBUFFERS_MAX_BUFFER_SIZE : ℕ := 2 ^ 31 - 1

/-- `FlatBufferBuilder::FieldLoc` -/
structure FieldLoc where
  off : ℕ
  id : ℕ
  deriving DecidableEq

structure FlatBufferBuilder where
  buf_ : Bytes := []
  /-- The scratch pad up to the `FieldLoc`s: offsets of the vtables, the first one first. -/
  vtables : List ℕ := []
  /-- The `num_field_loc` last entries of the scratch pad. -/
  field_locs : List FieldLoc := []
  max_voffset_ : ℕ := 0
  nested : Bool := false
  finished : Bool := false
  minalign_ : ℕ := 1
  force_defaults_ : Bool := false
  dedup_vtables_ : Bool := true
  deriving DecidableEq

/-- Code that uses a builder. -/
abbrev Build := Prog FlatBufferBuilder Fault

/-- `PaddingBytes`, in 64 bits. -/
def PaddingBytes (buf_size scalar_size : ℕ) : ℕ :=
  ((~~~(UInt64.ofNat buf_size) + 1) &&& (UInt64.ofNat scalar_size - 1)).toNat

def FieldIndexToOffset (field_id : ℕ) : ℕ := (field_id + 2) * 2

namespace FlatBufferBuilder

variable (ndebug : Bool)

def GetSize : Build ℕ := do
  let b ← Prog.get
  return b.buf_.length

/-- `buf_.ensure_space`, before anything is added to the buffer or to the scratch pad. -/
def ensure_space : Build Unit := do
  let size ← GetSize
  Prog.lift (cassert ndebug (size < FLATBUFFERS_MAX_BUFFER_SIZE))

/-- `buf_.push`; nothing happens for no bytes. -/
def push (bytes : Bytes) : Build Unit := do
  if bytes = [] then return ()
  else do
    ensure_space ndebug
    Prog.modify fun b => { b with buf_ := bytes ++ b.buf_ }

/-- `buf_.fill` -/
def fill (zero_pad_bytes : ℕ) : Build Unit := push ndebug (List.replicate zero_pad_bytes 0)

def TrackMinAlign (elem_size : ℕ) : Build Unit :=
  Prog.modify fun b => { b with minalign_ := if elem_size > b.minalign_ then elem_size else b.minalign_ }

def Align (elem_size : ℕ) : Build Unit := do
  TrackMinAlign elem_size
  let size ← GetSize
  fill ndebug (PaddingBytes size elem_size)

/-- `PushElement` of a scalar of `w` bytes. -/
def PushElement (w : ℕ) (element : ℕ) : Build ℕ := do
  Align ndebug w
  push ndebug (scalarBytes w element)
  GetSize

def PreAlign (len alignment : ℕ) : Build Unit := do
  if len = 0 then return ()
  else do
    TrackMinAlign alignment
    let size ← GetSize
    fill ndebug (PaddingBytes (size + len) alignment)

def NotNested : Build Unit := do
  let b ← Prog.get
  Prog.lift (cassert ndebug (b.nested = false))
  Prog.lift (cassert ndebug (b.field_locs = []))

/-- `ReferTo`: the offset, counted from where it is stored next. -/
def ReferTo (off : ℕ) : Build ℕ := do
  Align ndebug 4
  let size ← GetSize
  Prog.lift (cassert ndebug (off ≠ 0 ∧ off ≤ size))
  return size - off + 4

/-! ## Fields -/

def TrackField (field off : ℕ) : Build Unit := do
  ensure_space ndebug
  Prog.modify fun b =>
    { b with
      field_locs := b.field_locs ++ [⟨off, field⟩]
      max_voffset_ := if field > b.max_voffset_ then field else b.max_voffset_ }

/-- `AddElement` of a scalar of `w` bytes with a default. -/
def AddElement (w field e default : ℕ) : Build Unit := do
  let b ← Prog.get
  if e = default ∧ ¬ b.force_defaults_ then return ()
  else do
    let off ← PushElement ndebug w e
    TrackField ndebug field off

def AddOffset (field off : ℕ) : Build Unit := do
  if off = 0 then return ()
  else do
    let e ← ReferTo ndebug off
    AddElement ndebug 4 field e 0

/-- `AddStruct`, on the bytes of the struct. -/
def AddStruct (alignment field : ℕ) (structptr : Option Bytes) : Build Unit :=
  match structptr with
  | none => return ()
  | some bytes => do
    Align ndebug alignment
    push ndebug bytes
    let size ← GetSize
    TrackField ndebug field size

/-! ## Tables -/

def StartTable : Build ℕ := do
  NotNested ndebug
  Prog.modify fun b => { b with nested := true }
  GetSize

/-- One round of the loop over the `FieldLoc`s: the offset is written into the vtable, which
is the lowest part of the buffer. -/
def writeOffset (vtableoffsetloc : ℕ) (field_location : FieldLoc) : Build Unit := do
  let b ← Prog.get
  Prog.lift (cassert ndebug (scalarOf (sub b.buf_ field_location.id 2) = 0))
  Prog.modify fun b =>
    { b with
      buf_ := overwrite b.buf_ field_location.id (scalarBytes 2 (vtableoffsetloc - field_location.off)) }

/-- The vtable at `vt_offset` has the size and the bytes of `vt1`. -/
def sameVtable (buf : Bytes) (vt1 : Bytes) (vt_offset : ℕ) : Bool :=
  scalarOf (slice buf vt_offset 2) = vt1.length ∧ slice buf vt_offset vt1.length = vt1

/-- The vtable that the table at `vtableoffsetloc` uses: an older one that is the same, and
then the new one is removed, or the new one. -/
def useVtable (vtableoffsetloc : ℕ) : Build ℕ := do
  let b ← Prog.get
  let vt1 := sub b.buf_ 0 (scalarOf (sub b.buf_ 0 2))
  match if b.dedup_vtables_ then b.vtables.find? (sameVtable b.buf_ vt1) else none with
  | some vt_offset => do
    -- `buf_.pop`
    Prog.modify fun b => { b with buf_ := b.buf_.drop (b.buf_.length - vtableoffsetloc) }
    return vt_offset
  | none => return b.buf_.length

/-- `EndTable` from `fill_big` to `ClearOffsets`: the vtable, with its size, the size of the
table and the offsets of the fields. -/
def pushVtable (start vtableoffsetloc : ℕ) : Build Unit := do
  Prog.modify fun b => { b with max_voffset_ := Nat.max (b.max_voffset_ + 2) (FieldIndexToOffset 0) }
  let b ← Prog.get
  push ndebug (List.replicate b.max_voffset_ 0)
  let table_object_size := vtableoffsetloc - start
  Prog.lift (cassert ndebug (table_object_size < 0x10000))
  Prog.modify fun b => { b with buf_ := overwrite b.buf_ 2 (scalarBytes 2 table_object_size) }
  Prog.modify fun b => { b with buf_ := overwrite b.buf_ 0 (scalarBytes 2 b.max_voffset_) }
  Prog.forEach (writeOffset ndebug vtableoffsetloc) b.field_locs
  Prog.modify fun b => { b with field_locs := [], max_voffset_ := 0 }

def EndTable (start : ℕ) : Build ℕ := do
  let b ← Prog.get
  Prog.lift (cassert ndebug (b.nested = true))
  let vtableoffsetloc ← PushElement ndebug 4 0
  pushVtable ndebug start vtableoffsetloc
  let vt_use ← useVtable vtableoffsetloc
  let size ← GetSize
  if vt_use = size then do
    ensure_space ndebug
    Prog.modify fun b => { b with vtables := b.vtables ++ [vt_use] }
  else pure ()
  -- the signed distance to the vtable, in 32 bits
  Prog.modify fun b =>
    { b with
      buf_ := overwrite b.buf_ (b.buf_.length - vtableoffsetloc)
        (scalarBytes 4 (Int32.ofInt (vt_use - vtableoffsetloc)).toUInt32.toNat)
      nested := false }
  return vtableoffsetloc

/-! ## Strings and vectors -/

def CreateString (str : Bytes) : Build ℕ := do
  NotNested ndebug
  PreAlign ndebug (str.length + 1) 4
  fill ndebug 1
  push ndebug str
  let _ ← PushElement ndebug 4 str.length
  GetSize

def StartVector (len elemsize alignment : ℕ) : Build Unit := do
  NotNested ndebug
  Prog.modify fun b => { b with nested := true }
  PreAlign ndebug (len * elemsize) 4
  PreAlign ndebug (len * elemsize) alignment

def EndVector (len : ℕ) : Build ℕ := do
  let b ← Prog.get
  Prog.lift (cassert ndebug (b.nested = true))
  Prog.modify fun b => { b with nested := false }
  PushElement ndebug 4 len

/-- `CreateVector` of scalars of `w` bytes, copied at once. -/
def CreateVector (w : ℕ) (v : List ℕ) : Build ℕ := do
  StartVector ndebug v.length w w
  if v = [] then EndVector ndebug 0
  else do
    push ndebug (v.flatMap (scalarBytes w))
    EndVector ndebug v.length

/-- `CreateVector` of offsets: the last one first. -/
def CreateOffsetVector (v : List ℕ) : Build ℕ := do
  StartVector ndebug v.length 4 4
  Prog.forEach (fun off => do
    let e ← ReferTo ndebug off
    let _ ← PushElement ndebug 4 e) v.reverse
  EndVector ndebug v.length

/-! ## The whole buffer -/

/-- `Finish` without a file identifier. -/
def Finish (root : ℕ) : Build Unit := do
  NotNested ndebug
  Prog.modify fun b => { b with vtables := [] }
  let b ← Prog.get
  PreAlign ndebug 4 b.minalign_
  let e ← ReferTo ndebug root
  let _ ← PushElement ndebug 4 e
  Prog.modify fun b => { b with finished := true }

/-- `GetBufferPointer`, with the `GetSize()` bytes there. -/
def GetBufferPointer : Build Bytes := do
  let b ← Prog.get
  Prog.lift (cassert ndebug (b.finished = true))
  return b.buf_

end FlatBufferBuilder

end MfxProxy.Flatbuffers
