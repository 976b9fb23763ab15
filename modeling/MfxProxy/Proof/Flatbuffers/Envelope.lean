import MfxProxy.Proof.Flatbuffers.Object
import MfxProxy.Spec.Reference

/-!
# A finished buffer is read back

The layout of each table of the two schemas, and of the root. `Charset` is how a string is
carried by the bytes of a `std::string`.

* `returns_Finish`: the root of a finished buffer is found.
* `returns_finish`: an envelope that fits is finished, within the size of a buffer, and read back.
* `envelope_read_back`: the envelope at the root of a finished buffer is the one that was written,
  for every order of fields, with or without shared vtables.
-/

namespace MfxProxy.Flatbuffers

open Lib Prog FlatBufferBuilder

/-- The bytes of strings. -/
structure Charset where
  bytes : String → Bytes
  string : Bytes → String
  string_bytes : ∀ s, string (bytes s) = s

/-- What the generated code is built with. -/
structure Generated where
  ndebug : Bool
  order : FieldOrder
  charset : Charset

/-- The type byte of `union OfxPropertyValue`. -/
inductive ValueType
  | NONE
  | OfxPropertyIntNValue
  | OfxPropertyFloatNValue
  | OfxPropertyStringNValue
  | OfxPropertyPointerValue
  deriving DecidableEq

def valueTypes : List ValueType :=
  [.NONE, .OfxPropertyIntNValue, .OfxPropertyFloatNValue, .OfxPropertyStringNValue, .OfxPropertyPointerValue]

/-- The table that a type byte of `union OfxPropertyValue` tags. -/
@[reducible] def ValueType.Table : ValueType → Type
  | .NONE => Empty
  | .OfxPropertyIntNValue => MfxProxy.OfxPropertyIntNValue
  | .OfxPropertyFloatNValue => MfxProxy.OfxPropertyFloatNValue
  | .OfxPropertyStringNValue => MfxProxy.OfxPropertyStringNValue
  | .OfxPropertyPointerValue => MfxProxy.OfxPropertyPointerValue

/-! ## The layout of the schemas -/

namespace Generated

variable (G : Generated)

def int32Bytes (n : Int32) : ℕ := n.toUInt32.toNat

def int32Of (e : ℕ) : Int32 := (UInt32.ofNat e).toInt32

theorem int32Bytes_lt (n : Int32) : int32Bytes n < 256 ^ 4 := UInt32.toNat_lt _

theorem int32Of_int32Bytes (n : Int32) : int32Of (int32Bytes n) = n := by
  rw [int32Of, int32Bytes, UInt32.ofNat_toNat, Int32.toInt32_toUInt32]

def string : Object String :=
  .string G.ndebug G.charset.bytes G.charset.string G.charset.string_bytes

/-- An `int` field. -/
def int (index : ℕ) : Fields Int32 :=
  .scalar 4 (FieldIndexToOffset index) 0 int32Bytes int32Of aligned_four int32Bytes_lt int32Of_int32Bytes

/-- A `uint32` field. -/
def uint32 (index : ℕ) : Fields UInt32 :=
  .scalar 4 (FieldIndexToOffset index) 0 UInt32.toNat UInt32.ofNat aligned_four UInt32.toNat_lt
    fun _ => UInt32.ofNat_toNat

/-- `struct OfxStatus` -/
def OfxStatus (index : ℕ) : Fields (Option FbOfxStatus) :=
  .struct 4 4 (FieldIndexToOffset index) (fun s => scalarBytes 4 (int32Bytes s.status))
    (fun bytes => ⟨int32Of (scalarOf bytes)⟩) aligned_four ⟨by omega, by omega⟩ (fun _ => length_scalarBytes _ _)
    fun s => by rw [scalarOf_scalarBytes_of_lt (int32Bytes_lt _), int32Of_int32Bytes]

/-- `struct EffectInstanceId` -/
def EffectInstanceId (index : ℕ) : Fields (Option MfxProxy.EffectInstanceId) :=
  .struct 4 4 (FieldIndexToOffset index) (fun i => scalarBytes 4 i.instance_id.toNat)
    (fun bytes => ⟨UInt32.ofNat (scalarOf bytes)⟩) aligned_four ⟨by omega, by omega⟩ (fun _ => length_scalarBytes _ _)
    fun i => by rw [scalarOf_scalarBytes_of_lt (UInt32.toNat_lt _), UInt32.ofNat_toNat]

/-- A field that refers to an object. -/
def ref {α : Type} (index : ℕ) (c : Object α) : Fields (Option α) := .ref (FieldIndexToOffset index) c

/-- A table of at most four field indices. -/
def table {α : Type} (F : Fields α) (h : FieldIds F.ids 10) : Object α := .table G.ndebug G.order 10 F h

/-- The ids of `n` fields without a gap. -/
theorem fieldIds (n : ℕ) (hn : n < 5) : FieldIds ((List.range n).map FieldIndexToOffset) 10 := by
  have hcases : n = 0 ∨ n = 1 ∨ n = 2 ∨ n = 3 ∨ n = 4 := by omega
  rcases hcases with rfl | rfl | rfl | rfl | rfl <;> exact ⟨by decide, by decide, by decide, by decide⟩

def OfxPropertyIntNValue : Object MfxProxy.OfxPropertyIntNValue :=
  G.table ((ref 0 (.scalars G.ndebug 4 int32Bytes int32Of aligned_four int32Bytes_lt int32Of_int32Bytes)).via
    (·.values) (fun v => ⟨v⟩) fun _ => rfl) (fieldIds 1 (by decide))

def OfxPropertyFloatNValue : Object MfxProxy.OfxPropertyFloatNValue :=
  G.table ((ref 0 (.scalars G.ndebug 8 UInt64.toNat UInt64.ofNat (Or.inr (Or.inr (Or.inr rfl))) UInt64.toNat_lt
    fun _ => UInt64.ofNat_toNat)).via (·.values) (fun v => ⟨v⟩) fun _ => rfl) (fieldIds 1 (by decide))

def OfxPropertyStringNValue : Object MfxProxy.OfxPropertyStringNValue :=
  G.table ((ref 0 (.vector G.ndebug G.string)).via (·.values) (fun v => ⟨v⟩) fun _ => rfl) (fieldIds 1 (by decide))

def OfxPropertyPointerValue : Object MfxProxy.OfxPropertyPointerValue :=
  G.table ((ref 0 (.scalars G.ndebug 1 UInt8.toNat UInt8.ofNat (Or.inl rfl) UInt8.toNat_lt
    fun _ => UInt8.ofNat_toNat)).via (·.buffer) (fun v => ⟨v⟩) fun _ => rfl) (fieldIds 1 (by decide))

def value : (T : ValueType) → Object T.Table
  | .NONE => .empty
  | .OfxPropertyIntNValue => G.OfxPropertyIntNValue
  | .OfxPropertyFloatNValue => G.OfxPropertyFloatNValue
  | .OfxPropertyStringNValue => G.OfxPropertyStringNValue
  | .OfxPropertyPointerValue => G.OfxPropertyPointerValue

/-- A value as its type byte and table. -/
def tagged : MfxProxy.OfxPropertyValue → (T : ValueType) × Option T.Table
  | .NONE => ⟨.NONE, none⟩
  | .OfxPropertyIntNValue v => ⟨.OfxPropertyIntNValue, v⟩
  | .OfxPropertyFloatNValue v => ⟨.OfxPropertyFloatNValue, v⟩
  | .OfxPropertyStringNValue v => ⟨.OfxPropertyStringNValue, v⟩
  | .OfxPropertyPointerValue v => ⟨.OfxPropertyPointerValue, v⟩

def untagged : (T : ValueType) × Option T.Table → MfxProxy.OfxPropertyValue
  | ⟨.NONE, _⟩ => .NONE
  | ⟨.OfxPropertyIntNValue, v⟩ => .OfxPropertyIntNValue v
  | ⟨.OfxPropertyFloatNValue, v⟩ => .OfxPropertyFloatNValue v
  | ⟨.OfxPropertyStringNValue, v⟩ => .OfxPropertyStringNValue v
  | ⟨.OfxPropertyPointerValue, v⟩ => .OfxPropertyPointerValue v

def OfxPropertyValue (type_index index : ℕ) : Fields MfxProxy.OfxPropertyValue :=
  (Fields.union (FieldIndexToOffset type_index) (FieldIndexToOffset index) (fun T => valueTypes.idxOf T)
    (fun e => valueTypes.getD e .NONE) (fun T => by cases T <;> decide) (fun T => by cases T <;> rfl) G.value).via
    tagged untagged (fun v => by cases v <;> rfl)

def OfxProperty : Object MfxProxy.OfxProperty :=
  G.table (((ref 0 G.string).pair (G.OfxPropertyValue 1 2)).via (fun p => (p.name, p.value)) (fun p => ⟨p.1, p.2⟩)
    fun _ => rfl) (fieldIds 3 (by decide))

def properties (index : ℕ) : Fields (Option (List MfxProxy.OfxProperty)) := ref index (.vector G.ndebug G.OfxProperty)

def OfxAttribute : Object MfxProxy.OfxAttribute :=
  G.table ((G.properties 0).via (·.properties) (fun p => ⟨p⟩) fun _ => rfl) (fieldIds 1 (by decide))

def OfxMesh : Object MfxProxy.OfxMesh :=
  G.table (((G.properties 0).pair (ref 1 (.vector G.ndebug G.OfxAttribute))).via (fun m => (m.properties, m.attributes))
    (fun p => ⟨p.1, p.2⟩) fun _ => rfl) (fieldIds 2 (by decide))

def OfxParameter : Object MfxProxy.OfxParameter :=
  G.table ((G.properties 0).via (·.properties) (fun p => ⟨p⟩) fun _ => rfl) (fieldIds 1 (by decide))

def OfxPlugin : Object FbOfxPlugin :=
  G.table (((int 0).pair ((ref 1 G.string).pair ((int 2).pair (int 3)))).via
    (fun p => (p.effect_id, p.identifier, p.version_major, p.version_minor)) (fun p => ⟨p.1, p.2.1, p.2.2.1, p.2.2.2⟩)
    fun _ => rfl) (fieldIds 4 (by decide))

def parameters (index : ℕ) : Fields (Option (List MfxProxy.OfxParameter)) := ref index (.vector G.ndebug G.OfxParameter)

/-- A table without fields. -/
def start : Object Unit := G.table .unit (fieldIds 0 (by decide))

/-- A table with a status and nothing else. -/
def ended {α : Type} (f : α → Option FbOfxStatus) (g : Option FbOfxStatus → α) (h : ∀ x, g (f x) = x) : Object α :=
  G.table ((OfxStatus 0).via f g h) (fieldIds 1 (by decide))

/-- The tables of `union Message`. -/
def message : (T : MessageType) → Object T.Table
  | .NONE => .empty
  | .RemoteHostStarted => G.table (((int 0).pair (ref 1 (.vector G.ndebug G.OfxPlugin))).via
      (fun t => (t.number_of_plugins, t.plugins)) (fun p => ⟨p.1, p.2⟩) fun _ => rfl) (fieldIds 2 (by decide))
  | .ActionLoadStart => G.start
  | .ActionLoadEnd => G.ended (·.status) (fun s => ⟨s⟩) fun _ => rfl
  | .ActionUnloadStart => G.start
  | .ActionUnloadEnd => G.ended (·.status) (fun s => ⟨s⟩) fun _ => rfl
  | .ActionDescribeStart => G.start
  | .ActionDescribeEnd =>
    G.table (((OfxStatus 0).pair ((ref 1 (.vector G.ndebug G.OfxMesh)).pair (G.parameters 2))).via
      (fun t => (t.status, t.inputs, t.parameters)) (fun p => ⟨p.1, p.2.1, p.2.2⟩) fun _ => rfl)
      (fieldIds 3 (by decide))
  | .ActionCreateInstanceStart => G.start
  | .ActionCreateInstanceEnd => G.table (((OfxStatus 0).pair (EffectInstanceId 1)).via
      (fun t => (t.status, t.assigned_instance_id)) (fun p => ⟨p.1, p.2⟩) fun _ => rfl) (fieldIds 2 (by decide))
  | .ActionDestroyInstanceStart =>
    G.table ((EffectInstanceId 0).via (·.instance_id) (fun i => ⟨i⟩) fun _ => rfl) (fieldIds 1 (by decide))
  | .ActionDestroyInstanceEnd => G.ended (·.status) (fun s => ⟨s⟩) fun _ => rfl
  | .ActionIsIdentityStart =>
    G.table (((EffectInstanceId 0).pair ((G.parameters 1).pair (G.properties 2))).via
      (fun t => (t.instance_id, t.parameters, t.in_args)) (fun p => ⟨p.1, p.2.1, p.2.2⟩) fun _ => rfl)
      (fieldIds 3 (by decide))
  | .ActionIsIdentityEnd => G.table (((OfxStatus 0).pair (G.properties 1)).via (fun t => (t.status, t.out_args))
      (fun p => ⟨p.1, p.2⟩) fun _ => rfl) (fieldIds 2 (by decide))

/-- `table MessageEnvelope`, the root type. -/
def MessageEnvelope : Object MfxProxy.MessageEnvelope :=
  G.table (((uint32 0).pair ((uint32 1).pair (Fields.union (FieldIndexToOffset 2) (FieldIndexToOffset 3)
    (fun T => Reference.messageTypes.idxOf T) (fun e => Reference.messageTypes.getD e .NONE)
    (fun T => by cases T <;> decide) (fun T => by cases T <;> rfl) G.message))).via
    (fun e => (e.message_thread_id, e.message_id, ⟨e.message_type, e.message⟩))
    (fun p => ⟨p.1, p.2.1, p.2.2.1, p.2.2.2⟩) fun _ => rfl) (fieldIds 4 (by decide))

/-! ## The whole buffer -/

/-- `make_message` from `CreateMessageEnvelope` to `GetBufferPointer`; its message is an object of
the same buffer. -/
def finish (e : MfxProxy.MessageEnvelope) : Build Bytes := do
  let message_envelope ← G.MessageEnvelope.write e
  Finish G.ndebug message_envelope
  GetBufferPointer G.ndebug

def GetMessageEnvelope (buf : Bytes) : Except Fault MfxProxy.MessageEnvelope := do
  let root ← GetRoot buf
  G.MessageEnvelope.read buf root

end Generated

/-- **The root is found** at the lower end of a finished buffer. -/
theorem returns_Finish {ndebug : Bool} {b : FlatBufferBuilder} {root : ℕ} (hclean : b.Clean) (hpos : 0 < root)
    (hle : root ≤ b.buf_.length) (hroom : b.buf_.length + 24 < FLATBUFFERS_MAX_BUFFER_SIZE) :
    Returns (Finish ndebug root) b fun _ t =>
      t.finished = true ∧ GetRoot t.buf_ = .ok (t.buf_.length - root) ∧ b.buf_ <:+ t.buf_ ∧
        t.buf_.length < FLATBUFFERS_MAX_BUFFER_SIZE := by
  have hbound : FLATBUFFERS_MAX_BUFFER_SIZE < 256 ^ 4 := by decide
  have hwidth := hclean.minalign.pos
  unfold Finish
  apply returns_NotNested_bind hclean
  apply returns_modify_bind
  apply returns_get_bind
  dsimp only
  refine (returns_PreAlign (b := { b with vtables := [] })
    (Q := fun _ t => ∃ k m, k < 8 ∧ Aligned m ∧
      t = ({ b with vtables := [] } : FlatBufferBuilder).add (List.replicate k 0) m)
    hclean.minalign (by omega) (by dsimp only; omega)
    fun k m hk => ⟨k, m, by have := hk.lt; omega, hk.minalign hclean.minalign, rfl⟩).bind ?_
  rintro _ _ ⟨k, m, hk, hm, rfl⟩
  generalize hteq : ({ b with vtables := [] } : FlatBufferBuilder).add (List.replicate k 0) m = t
  have htbuf : t.buf_ = List.replicate k 0 ++ b.buf_ := by rw [← hteq]; rfl
  have htlen : t.buf_.length = k + b.buf_.length := by rw [htbuf, List.length_append, List.length_replicate]
  refine (returns_ReferTo (Q := fun e u => ∃ k' m', Pads t 0 4 k' m' ∧ e = t.buf_.length + k' - root + 4 ∧
    u = t.add (List.replicate k' 0) m') hpos (by omega) (by omega) fun k' m' hk' => ⟨k', m', hk', rfl, rfl⟩).bind ?_
  rintro _ _ ⟨k', m', hk', rfl, rfl⟩
  have hlt := hk'.lt
  have haligned := hk'.aligned
  have hulen : (t.add (List.replicate k' 0) m').buf_.length = k' + t.buf_.length := by
    rw [length_add, List.length_replicate]
  generalize he : t.buf_.length + k' - root + 4 = e
  refine (returns_PushElement_aligned (Q := fun _ u => ∃ m, u = t.add (scalarBytes 4 e ++ List.replicate k' 0) m)
    aligned_four (by rw [hulen]; omega) (by rw [hulen]; omega) fun m'' _ => ⟨m'', add_add _ _ _ _⟩).bind ?_
  rintro _ _ ⟨m'', rfl⟩
  apply returns_modify
  have hlen : (scalarBytes 4 e ++ (List.replicate k' 0 ++ t.buf_)).length = 4 + (k' + t.buf_.length) := by
    rw [List.length_append, length_scalarBytes, List.length_append, List.length_replicate]
  have hat := (at_scalar (List.replicate k' 0 ++ t.buf_) (by omega) (show e < 256 ^ 4 by omega)).holds _
    (List.suffix_refl _)
  rw [Nat.sub_self] at hat
  show true = true ∧ GetRoot (scalarBytes 4 e ++ List.replicate k' 0 ++ t.buf_) = _ ∧
    b.buf_ <:+ scalarBytes 4 e ++ List.replicate k' 0 ++ t.buf_ ∧
      (scalarBytes 4 e ++ List.replicate k' 0 ++ t.buf_).length < FLATBUFFERS_MAX_BUFFER_SIZE
  rw [List.append_assoc]
  refine ⟨rfl, ?_, ?_, by omega⟩
  · have hroot : (scalarBytes 4 e ++ (List.replicate k' 0 ++ t.buf_)).length - root = e := by omega
    rw [add_buf, List.append_assoc, hroot]
    exact hat
  · rw [htbuf]
    exact ⟨scalarBytes 4 e ++ (List.replicate k' 0 ++ List.replicate k 0), by simp only [List.append_assoc]⟩

namespace Generated

variable (G : Generated)

/-- An envelope that fits is finished, and its buffer is read back. -/
theorem returns_finish (e : MfxProxy.MessageEnvelope) (b : FlatBufferBuilder) (hclean : b.Clean)
    (hroom : b.buf_.length + (G.MessageEnvelope.weight e + 24) < FLATBUFFERS_MAX_BUFFER_SIZE) :
    Returns (G.finish e) b fun buf _ =>
      buf.length < FLATBUFFERS_MAX_BUFFER_SIZE ∧ G.GetMessageEnvelope buf = .ok e := by
  unfold finish
  refine (G.MessageEnvelope.written e b hclean (by omega)).bind ?_
  rintro root t ⟨hgrows, hat⟩
  have hlen := hgrows.length
  refine (returns_Finish hgrows.clean hat.pos hat.le (by omega)).bind ?_
  rintro _ u ⟨hfinished, hroot, hsuffix, hsize⟩
  unfold GetBufferPointer
  apply returns_get_bind
  apply returns_lift_bind (cassert_ok hfinished)
  apply returns_pure
  unfold GetMessageEnvelope
  rw [hroot, ok_bind]
  exact ⟨hsize, hat.holds u.buf_ hsuffix⟩

/-- **A finished buffer is read back**: for every envelope whose weight leaves room in the
buffer, no assertion fails, and what the readers find at the root is the envelope that was
written. The weight bounds the bytes that the envelope takes in any layout: the order in which
fields are added, defaults that are stored all the same and vtables that are shared make no
difference. -/
theorem envelope_read_back (e : MfxProxy.MessageEnvelope) (b : FlatBufferBuilder) (hclean : b.Clean)
    (hroom : b.buf_.length + (G.MessageEnvelope.weight e + 24) < FLATBUFFERS_MAX_BUFFER_SIZE) :
    Returns (G.finish e) b fun buf _ => G.GetMessageEnvelope buf = .ok e := by
  have hreturns := G.returns_finish e b hclean hroom
  exact hreturns.mono fun _ _ h => h.2

/-- Strings by their characters, and fields in the order of the schema. -/
def reference : Generated where
  ndebug := false
  order := ⟨id, fun _ => .refl _⟩
  charset := ⟨Reference.string.write, fun l => ((Reference.string.read l).map Prod.fst).getD "", fun s => by
    have hread := Reference.string.read_write s []
    rw [List.append_nil] at hread
    rw [hread]
    rfl⟩

theorem load_read_back :
    Returns (reference.finish ⟨7, 0, .ActionLoadStart, some ()⟩) {} fun buf _ =>
      reference.GetMessageEnvelope buf = .ok ⟨7, 0, .ActionLoadStart, some ()⟩ :=
  reference.envelope_read_back _ {} ⟨rfl, rfl, rfl, fun _ hv => absurd hv List.not_mem_nil, Or.inl rfl⟩ (by decide)

end Generated

end MfxProxy.Flatbuffers
