import MfxProxy.Lib.Block
import MfxProxy.Spec.Flatbuffers.Builder

/-!
# Tables, and how they are read

The generated `CreateX` of a table calls one `Add` for each field, in an order that the
generator picks. `Slot` is such a call.

A pointer into a buffer is its distance from the start of the buffer. A read that leaves the
buffer is undefined behaviour. The readers are those of `flatbuffers/table.h`, `vector.h` and
`buffer.h`.
-/

namespace MfxProxy.Flatbuffers

open Lib FlatBufferBuilder

/-! ## Writing -/

/-- A call that adds a field to the table under construction. -/
inductive Slot
  | AddElement (w field e default : ℕ)
  | AddOffset (field off : ℕ)
  | AddStruct (alignment field : ℕ) (structptr : Option Bytes)

namespace Slot

def field : Slot → ℕ
  | AddElement _ field _ _ => field
  | AddOffset field _ => field
  | AddStruct _ field _ => field

def add (ndebug : Bool) : Slot → Build Unit
  | AddElement w field e default => FlatBufferBuilder.AddElement ndebug w field e default
  | AddOffset field off => FlatBufferBuilder.AddOffset ndebug field off
  | AddStruct alignment field structptr => FlatBufferBuilder.AddStruct ndebug alignment field structptr

end Slot

/-- The order in which generated code adds fields. -/
structure FieldOrder where
  order : List Slot → List Slot
  perm : ∀ slots, (order slots).Perm slots

/-- The generated `CreateX` -/
def CreateTable (ndebug : Bool) (G : FieldOrder) (slots : List Slot) : Build ℕ := do
  let start ← StartTable ndebug
  Prog.forEach (Slot.add ndebug) (G.order slots)
  EndTable ndebug start

/-! ## Reading -/

variable (ndebug : Bool) (buf : Bytes)

/-- `ReadScalar` of a scalar of `w` bytes. -/
def ReadScalar (w p : ℕ) : Except Fault ℕ := do
  let bytes ← deref (Block.read buf p w)
  return scalarOf bytes

/-- `Table::GetVTable` -/
def GetVTable (data_ : ℕ) : Except Fault ℕ := do
  let soffset ← ReadScalar buf 4 data_
  let vtable := data_ - (UInt32.ofNat soffset).toInt32.toInt
  if 0 ≤ vtable then return vtable.toNat else throw .undefined

/-- `Table::GetOptionalFieldOffset` -/
def GetOptionalFieldOffset (data_ field : ℕ) : Except Fault ℕ := do
  let vtable ← GetVTable buf data_
  let vtsize ← ReadScalar buf 2 vtable
  if field < vtsize then ReadScalar buf 2 (vtable + field) else return 0

/-- `Table::GetField` of a scalar of `w` bytes. -/
def GetField (w data_ field defaultval : ℕ) : Except Fault ℕ := do
  let field_offset ← GetOptionalFieldOffset buf data_ field
  if field_offset ≠ 0 then ReadScalar buf w (data_ + field_offset) else return defaultval

/-- `Table::GetPointer` -/
def GetPointer (data_ field : ℕ) : Except Fault (Option ℕ) := do
  let field_offset ← GetOptionalFieldOffset buf data_ field
  let p := data_ + field_offset
  if field_offset ≠ 0 then do
    let o ← ReadScalar buf 4 p
    return some (p + o)
  else return none

/-- `Table::GetStruct` -/
def GetStruct (data_ field : ℕ) : Except Fault (Option ℕ) := do
  let field_offset ← GetOptionalFieldOffset buf data_ field
  let p := data_ + field_offset
  if field_offset ≠ 0 then return some p else return none

/-- `Vector::size` -/
def size (v : ℕ) : Except Fault ℕ := ReadScalar buf 4 v

/-- `Vector::Get` of scalars of `w` bytes. -/
def Get (w v i : ℕ) : Except Fault ℕ := do
  let n ← size buf v
  cassert ndebug (i < n)
  ReadScalar buf w (v + 4 + i * w)

/-- `Vector::Get` of offsets: the pointer to what the entry refers to. -/
def GetIndirect (v i : ℕ) : Except Fault ℕ := do
  let n ← size buf v
  cassert ndebug (i < n)
  let p := v + 4 + i * 4
  let o ← ReadScalar buf 4 p
  return p + o

/-- `String::str` -/
def str (v : ℕ) : Except Fault Bytes := do
  let n ← size buf v
  deref (Block.read buf (v + 4) n)

/-- `GetRoot` -/
def GetRoot : Except Fault ℕ := ReadScalar buf 4 0

end MfxProxy.Flatbuffers
