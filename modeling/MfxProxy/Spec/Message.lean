import MfxProxy.Lib.Words
import MfxProxy.Spec.Basic
import MfxProxy.Spec.Schema

/-!
# `MfxProxyMessage`

A message is the bytes of `effect_id` followed by a finished FlatBuffer with a
`MessageEnvelope` at its root. Moves do not change the bytes, so a moved message is
the same value.

`Platform` is what the code takes from outside the repository: the generated
FlatBuffers code, whose `Finish` and root access are inverse, and the byte order of
the machine both processes run on.
-/

namespace MfxProxy

open Lib

/-- FlatBuffers and the byte order shared by the two processes. -/
structure Platform where
  order : ByteOrder
  Finish : MessageEnvelope → Bytes
  GetMessageEnvelope : Bytes → MessageEnvelope
  root_finish : ∀ e, GetMessageEnvelope (Finish e) = e

namespace Platform

variable (P : Platform)

/-- `MfxProxyMessage::make_message<T>`. `T = NONE` (the `static_assert`) has no table. -/
def make_message (T : MessageType) (message : T.Table) (effect_id message_thread_id message_id : UInt32) :
    Bytes :=
  wordBytes P.order effect_id ++ P.Finish ⟨message_thread_id, message_id, T, some message⟩

/-- `MfxProxyMessage::message_envelope` -/
def message_envelope (m_msg : Bytes) : MessageEnvelope :=
  P.GetMessageEnvelope (m_msg.drop 4)

/-- `MfxProxyMessage::effect_id`: reads four bytes, which must be there. -/
def effect_id (m_msg : Bytes) : Except Fault UInt32 :=
  if m_msg.length < 4 then .error .undefined else .ok (wordOf P.order (m_msg.take 4))

def message_id (m_msg : Bytes) : UInt32 := (P.message_envelope m_msg).message_id

def message_thread_id (m_msg : Bytes) : UInt32 := (P.message_envelope m_msg).message_thread_id

def message_type (m_msg : Bytes) : MessageType := (P.message_envelope m_msg).message_type

/-- `MfxProxyMessage::message_as<T>` -/
def message_as (T : MessageType) (m_msg : Bytes) : Except Fault T.Table :=
  match (P.message_envelope m_msg).message_as T with
  | some t => .ok t
  | none => .error .runtime_error

/-- `MfxProxyEffect::message_prefix`: the subscription of the effect, the bytes of its
`m_effect_id` in memory. -/
def message_prefix (m_effect_id : UInt32) : Bytes := wordBytes P.order m_effect_id

section

variable {P} {T U : MessageType} {t : T.Table} {e e' i j : UInt32}

@[simp] theorem message_envelope_make_message :
    P.message_envelope (P.make_message T t e i j) = ⟨i, j, T, some t⟩ := by
  have h : (wordBytes P.order e).length = 4 := wordBytes_length _ _
  rw [message_envelope, make_message, ← h, List.drop_left, P.root_finish]

@[simp] theorem effect_id_make_message : P.effect_id (P.make_message T t e i j) = .ok e := by
  have h : (wordBytes P.order e).length = 4 := wordBytes_length _ _
  have htake : (P.make_message T t e i j).take 4 = wordBytes P.order e := by
    rw [make_message, ← h, List.take_left]
  have hlen : ¬ (P.make_message T t e i j).length < 4 := by simp [make_message]
  rw [effect_id, if_neg hlen, htake, wordOf_wordBytes]

@[simp] theorem message_thread_id_make_message : P.message_thread_id (P.make_message T t e i j) = i := by
  simp [message_thread_id]

@[simp] theorem message_id_make_message : P.message_id (P.make_message T t e i j) = j := by
  simp [message_id]

@[simp] theorem message_type_make_message : P.message_type (P.make_message T t e i j) = T := by
  simp [message_type]

@[simp] theorem message_as_make_message : P.message_as T (P.make_message T t e i j) = .ok t := by
  simp [message_as]

theorem message_as_of_ne (h : T ≠ U) : P.message_as U (P.make_message T t e i j) = .error .runtime_error := by
  rw [message_as, message_envelope_make_message, MessageEnvelope.message_as_ne h]

/-- **The subscription of an effect admits exactly the messages that carry its id.** -/
theorem prefix_make_message : P.message_prefix e' <+: P.make_message T t e i j ↔ e' = e := by
  rw [make_message, message_prefix, prefix_of_width (by simp), wordBytes_inj]

end

end Platform

/-- The message carries the id of effect `e`. -/
def addressed (P : Platform) (e : UInt32) (m : Bytes) : Bool :=
  match P.effect_id m with
  | .ok e' => e' = e
  | .error _ => false

@[simp] theorem addressed_iff {P : Platform} {e : UInt32} {m : Bytes} :
    addressed P e m = true ↔ P.effect_id m = .ok e := by
  unfold addressed
  split
  · rename_i h; simp [h]
  · rename_i h; simp [h]

end MfxProxy
