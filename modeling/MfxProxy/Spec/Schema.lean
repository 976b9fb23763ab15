import Mathlib.Data.Nat.Notation

/-!
# The FlatBuffers schema

The tables, structs and unions of `MfxFlatbuffersBasicTypes.fbs` and
`MfxFlatbuffersMessages.fbs` as they are read through the generated accessors. A
vector, string, table, struct or union field of a table may be absent, and its
accessor then returns null: such a field is an `Option`. Scalar fields have their
default when absent. A union field has a type byte and a table, each of which may
be missing.

A `double` is carried by its 64 bits.
-/

namespace MfxProxy

/-- `struct OfxStatus { status: int; }` -/
structure FbOfxStatus where
  status : Int32
  deriving DecidableEq

structure OfxPropertyIntNValue where
  values : Option (List Int32)
  deriving DecidableEq

structure OfxPropertyFloatNValue where
  values : Option (List UInt64)
  deriving DecidableEq

structure OfxPropertyStringNValue where
  values : Option (List String)
  deriving DecidableEq

structure OfxPropertyPointerValue where
  buffer : Option (List UInt8)
  deriving DecidableEq

/-- `union OfxPropertyValue`: the type byte with the table it tags. -/
inductive OfxPropertyValue
  | NONE
  | OfxPropertyIntNValue (value : Option OfxPropertyIntNValue)
  | OfxPropertyFloatNValue (value : Option OfxPropertyFloatNValue)
  | OfxPropertyStringNValue (value : Option OfxPropertyStringNValue)
  | OfxPropertyPointerValue (value : Option OfxPropertyPointerValue)
  deriving DecidableEq

structure OfxProperty where
  name : Option String
  value : OfxPropertyValue
  deriving DecidableEq

/-- Mesh attribute (eg. UV). -/
structure OfxAttribute where
  properties : Option (List OfxProperty)
  deriving DecidableEq

/-- Input/output geometry. -/
structure OfxMesh where
  properties : Option (List OfxProperty)
  attributes : Option (List OfxAttribute)
  deriving DecidableEq

/-- Plugin parameter (user input, eg. a boolean toggle). -/
structure OfxParameter where
  properties : Option (List OfxProperty)
  deriving DecidableEq

/-- `table OfxPlugin`: a single plugin (effect). -/
structure FbOfxPlugin where
  effect_id : Int32
  identifier : Option String
  version_major : Int32
  version_minor : Int32
  deriving DecidableEq

structure EffectInstanceId where
  instance_id : UInt32
  deriving DecidableEq

structure RemoteHostStarted where
  number_of_plugins : Int32
  plugins : Option (List FbOfxPlugin)
  deriving DecidableEq

structure ActionLoadEnd where
  status : Option FbOfxStatus
  deriving DecidableEq

structure ActionUnloadEnd where
  status : Option FbOfxStatus
  deriving DecidableEq

structure ActionDescribeEnd where
  status : Option FbOfxStatus
  inputs : Option (List OfxMesh)
  parameters : Option (List OfxParameter)
  deriving DecidableEq

structure ActionCreateInstanceEnd where
  status : Option FbOfxStatus
  assigned_instance_id : Option EffectInstanceId
  deriving DecidableEq

structure ActionDestroyInstanceStart where
  instance_id : Option EffectInstanceId
  deriving DecidableEq

structure ActionDestroyInstanceEnd where
  status : Option FbOfxStatus
  deriving DecidableEq

structure ActionIsIdentityStart where
  instance_id : Option EffectInstanceId
  parameters : Option (List OfxParameter)
  in_args : Option (List OfxProperty)
  deriving DecidableEq

structure ActionIsIdentityEnd where
  status : Option FbOfxStatus
  out_args : Option (List OfxProperty)
  deriving DecidableEq

/-- The type byte of `union Message`. -/
inductive MessageType
  | NONE
  | RemoteHostStarted
  | ActionLoadStart
  | ActionLoadEnd
  | ActionUnloadStart
  | ActionUnloadEnd
  | ActionDescribeStart
  | ActionDescribeEnd
  | ActionCreateInstanceStart
  | ActionCreateInstanceEnd
  | ActionDestroyInstanceStart
  | ActionDestroyInstanceEnd
  | ActionIsIdentityStart
  | ActionIsIdentityEnd
  deriving DecidableEq

/-- The table a type byte tags (`MessageTraits`); the start messages without fields
are `Unit`. -/
@[reducible] def MessageType.Table : MessageType → Type
  | .NONE => Empty
  | .RemoteHostStarted => MfxProxy.RemoteHostStarted
  | .ActionLoadStart => Unit
  | .ActionLoadEnd => MfxProxy.ActionLoadEnd
  | .ActionUnloadStart => Unit
  | .ActionUnloadEnd => MfxProxy.ActionUnloadEnd
  | .ActionDescribeStart => Unit
  | .ActionDescribeEnd => MfxProxy.ActionDescribeEnd
  | .ActionCreateInstanceStart => Unit
  | .ActionCreateInstanceEnd => MfxProxy.ActionCreateInstanceEnd
  | .ActionDestroyInstanceStart => MfxProxy.ActionDestroyInstanceStart
  | .ActionDestroyInstanceEnd => MfxProxy.ActionDestroyInstanceEnd
  | .ActionIsIdentityStart => MfxProxy.ActionIsIdentityStart
  | .ActionIsIdentityEnd => MfxProxy.ActionIsIdentityEnd

/-- `table MessageEnvelope`, the root type. -/
structure MessageEnvelope where
  message_thread_id : UInt32
  message_id : UInt32
  message_type : MessageType
  message : Option message_type.Table

/-- The generated `message_as<T>()`: null unless the type byte is `T`'s. -/
def MessageEnvelope.message_as (e : MessageEnvelope) (T : MessageType) : Option T.Table :=
  if h : e.message_type = T then h ▸ e.message else none

@[simp] theorem MessageEnvelope.message_as_self (t i : UInt32) (T : MessageType) (m : Option T.Table) :
    MessageEnvelope.message_as ⟨t, i, T, m⟩ T = m := by simp [message_as]

theorem MessageEnvelope.message_as_ne {e : MessageEnvelope} {T : MessageType} (h : e.message_type ≠ T) :
    e.message_as T = none := by simp [message_as, h]

end MfxProxy
