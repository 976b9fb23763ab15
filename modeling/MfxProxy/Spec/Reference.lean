import MfxProxy.Lib.Codec
import MfxProxy.Spec.Plugin
import MfxProxy.Spec.Wire

/-!
# A platform and a build to run the model on

`Platform.reference` writes an envelope field by field. It is not the FlatBuffers
layout; it has what the code relies on, that root access returns what `Finish` was
given, and it computes, so that runs of the model can be evaluated.

`Build.reference` keeps the assertions and doubles the capacity of a full vector.
-/

namespace MfxProxy

open Lib

namespace Reference

def int32 : Codec Int32 :=
  Codec.word.via Int32.toUInt32 (fun n => some n.toInt32) (by simp)

def double : Codec UInt64 :=
  (Codec.word.pair Codec.word).via
    (fun n => (UInt32.ofNat (n.toNat / 2 ^ 32), UInt32.ofNat (n.toNat % 2 ^ 32)))
    (fun p => some (UInt64.ofNat (p.1.toNat * 2 ^ 32 + p.2.toNat)))
    (fun n => by
      have hn := n.toNat_lt
      simp only [UInt32.toNat_ofNat', Option.some.injEq]
      have : n.toNat / 2 ^ 32 % 2 ^ 32 * 2 ^ 32 + n.toNat % 2 ^ 32 % 2 ^ 32 = n.toNat := by omega
      rw [this, UInt64.ofNat_toNat])

def char : Codec Char :=
  Codec.word.via Char.val (fun n => if h : n.isValidChar then some ⟨n, h⟩ else none) (fun c => by
    simp [c.valid])

def string : Codec String :=
  char.list.via String.toList (fun l => some (String.ofList l)) (by simp)

def status : Codec FbOfxStatus := int32.via (·.status) (fun s => some ⟨s⟩) (by simp)

def instanceId : Codec EffectInstanceId := Codec.word.via (·.instance_id) (fun n => some ⟨n⟩) (by simp)

def intN : Codec OfxPropertyIntNValue := int32.list.option.via (·.values) (fun v => some ⟨v⟩) (by simp)

def floatN : Codec OfxPropertyFloatNValue := double.list.option.via (·.values) (fun v => some ⟨v⟩) (by simp)

def stringN : Codec OfxPropertyStringNValue := string.list.option.via (·.values) (fun v => some ⟨v⟩) (by simp)

def pointer : Codec OfxPropertyPointerValue :=
  Codec.byte.list.option.via (·.buffer) (fun v => some ⟨v⟩) (by simp)

/-- The tables of `OfxPropertyValue` by type byte. -/
def valueTables : (i : Fin 5) → (T : Type) × Codec T
  | 0 => ⟨Unit, Codec.unit⟩
  | 1 => ⟨Option OfxPropertyIntNValue, intN.option⟩
  | 2 => ⟨Option OfxPropertyFloatNValue, floatN.option⟩
  | 3 => ⟨Option OfxPropertyStringNValue, stringN.option⟩
  | 4 => ⟨Option OfxPropertyPointerValue, pointer.option⟩

def tag (n : ℕ) [NeZero n] (hn : n ≤ 256) : Codec (Fin n) :=
  Codec.byte.via (fun i => UInt8.ofNat i) (fun b => some (Fin.ofNat n b.toNat)) (fun i => by
    have hi : (i : ℕ) % 256 = i := Nat.mod_eq_of_lt (by omega)
    simp [UInt8.toNat_ofNat', hi])

def value : Codec OfxPropertyValue :=
  (Codec.tagged (tag 5 (by norm_num)) fun i => (valueTables i).2).via
    (fun
      | .NONE => ⟨0, ()⟩
      | .OfxPropertyIntNValue v => ⟨1, v⟩
      | .OfxPropertyFloatNValue v => ⟨2, v⟩
      | .OfxPropertyStringNValue v => ⟨3, v⟩
      | .OfxPropertyPointerValue v => ⟨4, v⟩)
    (fun
      | ⟨0, _⟩ => some .NONE
      | ⟨1, v⟩ => some (.OfxPropertyIntNValue v)
      | ⟨2, v⟩ => some (.OfxPropertyFloatNValue v)
      | ⟨3, v⟩ => some (.OfxPropertyStringNValue v)
      | ⟨4, v⟩ => some (.OfxPropertyPointerValue v))
    (fun v => by cases v <;> rfl)

def property : Codec OfxProperty :=
  (string.option.pair value).via (fun p => (p.name, p.value)) (fun p => some ⟨p.1, p.2⟩) (by simp)

def properties : Codec (Option (List OfxProperty)) := property.list.option

def meshAttribute : Codec OfxAttribute := properties.via (·.properties) (fun p => some ⟨p⟩) (by simp)

def mesh : Codec OfxMesh :=
  (properties.pair meshAttribute.list.option).via (fun m => (m.properties, m.attributes))
    (fun p => some ⟨p.1, p.2⟩) (by simp)

def parameter : Codec OfxParameter := properties.via (·.properties) (fun p => some ⟨p⟩) (by simp)

def plugin : Codec FbOfxPlugin :=
  (int32.pair (string.option.pair (int32.pair int32))).via
    (fun p => (p.effect_id, p.identifier, p.version_major, p.version_minor))
    (fun p => some ⟨p.1, p.2.1, p.2.2.1, p.2.2.2⟩) (by simp)

/-- The format of each table of `union Message`. -/
def table : (T : MessageType) → Codec T.Table
  | .NONE => Codec.empty
  | .RemoteHostStarted => (int32.pair plugin.list.option).via (fun t => (t.number_of_plugins, t.plugins))
      (fun p => some ⟨p.1, p.2⟩) (by simp)
  | .ActionLoadStart => Codec.unit
  | .ActionLoadEnd => status.option.via (·.status) (fun s => some ⟨s⟩) (by simp)
  | .ActionUnloadStart => Codec.unit
  | .ActionUnloadEnd => status.option.via (·.status) (fun s => some ⟨s⟩) (by simp)
  | .ActionDescribeStart => Codec.unit
  | .ActionDescribeEnd =>
      (status.option.pair (mesh.list.option.pair parameter.list.option)).via
        (fun t => (t.status, t.inputs, t.parameters)) (fun p => some ⟨p.1, p.2.1, p.2.2⟩) (by simp)
  | .ActionCreateInstanceStart => Codec.unit
  | .ActionCreateInstanceEnd => (status.option.pair instanceId.option).via
      (fun t => (t.status, t.assigned_instance_id)) (fun p => some ⟨p.1, p.2⟩) (by simp)
  | .ActionDestroyInstanceStart => instanceId.option.via (·.instance_id) (fun i => some ⟨i⟩) (by simp)
  | .ActionDestroyInstanceEnd => status.option.via (·.status) (fun s => some ⟨s⟩) (by simp)
  | .ActionIsIdentityStart => (instanceId.option.pair (parameter.list.option.pair properties)).via
      (fun t => (t.instance_id, t.parameters, t.in_args)) (fun p => some ⟨p.1, p.2.1, p.2.2⟩) (by simp)
  | .ActionIsIdentityEnd => (status.option.pair properties).via (fun t => (t.status, t.out_args))
      (fun p => some ⟨p.1, p.2⟩) (by simp)

def messageTypes : List MessageType :=
  [.NONE, .RemoteHostStarted, .ActionLoadStart, .ActionLoadEnd, .ActionUnloadStart, .ActionUnloadEnd,
    .ActionDescribeStart, .ActionDescribeEnd, .ActionCreateInstanceStart, .ActionCreateInstanceEnd,
    .ActionDestroyInstanceStart, .ActionDestroyInstanceEnd, .ActionIsIdentityStart, .ActionIsIdentityEnd]

def messageType : Codec MessageType :=
  Codec.byte.via (fun T => UInt8.ofNat (messageTypes.idxOf T)) (fun b => messageTypes[b.toNat]?)
    (fun T => by cases T <;> rfl)

def envelope : Codec MessageEnvelope :=
  (Codec.word.pair (Codec.word.pair (Codec.tagged messageType fun T => (table T).option))).via
    (fun e => (e.message_thread_id, e.message_id, ⟨e.message_type, e.message⟩))
    (fun p => some ⟨p.1, p.2.1, p.2.2.1, p.2.2.2⟩) (by simp)

end Reference

/-- A little-endian platform that serializes field by field. -/
def Platform.reference : Platform where
  order := .little
  Finish := Reference.envelope.write
  GetMessageEnvelope l :=
    match Reference.envelope.read l with
    | some (e, _) => e
    | none => ⟨0, 0, .NONE, none⟩
  root_finish e := by
    have := Reference.envelope.read_write e []
    rw [List.append_nil] at this
    rw [this]

/-- New memory is not zero. -/
def Libraries.reference : Libraries where
  toPlatform := Platform.reference
  finish_ne_nil _ := by
    intro h
    have := congrArg List.length h
    simp [Platform.reference, Reference.envelope, Codec.via, Codec.pair, Codec.word] at this
  message_t size := List.replicate size 0xCD
  message_t_length size := List.length_replicate

/-- Capacities 1, 2, 4, 8, ... -/
def Growth.doubling : Growth where
  next n := Nat.max 1 (2 * n)
  grows n := by simp only [Nat.max_def]; split <;> omega

def Build.reference : Build where
  ndebug := false
  growth := .doubling
  broker := 0

def PluginApi.reference : PluginApi where
  kOfxMeshEffectPluginApi := c_str "OfxMeshEffectPluginAPI"
  kOfxMeshEffectPluginApiVersion := 1

/-- A call whose every step succeeds, up to the handshake. -/
def SetHostEnv.good (definition : Option BrokerPluginBundleDefinition) : SetHostEnv where
  bind_pub := true
  bind_sub := true
  bind_pair := true
  pair_endpoint := "tcp://127.0.0.1:5555"
  config_exists := true
  plugin_path := some "effects.ofx"
  host_exists := true
  launch := true
  definition := definition

/-- The definition of a bundle with these effects. -/
def catalogue (identifiers : List String) : BrokerPluginBundleDefinition where
  number_of_plugins := Int32.ofNat identifiers.length
  plugins := identifiers.mapIdx fun i identifier => ⟨Int32.ofNat i, identifier, 1, 0⟩

end MfxProxy
