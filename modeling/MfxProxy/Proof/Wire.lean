import MfxProxy.Spec.Reference
import MfxProxy.Spec.Wire

/-!
# The layout of a message

* `make_message_eq`: the two copies of `make_message` leave the bytes of the id and
  then the buffer, whatever was in the memory.
* `message_envelope_eq`, `effect_id_eq`: on a message that holds an id, the accessors
  are those of `Platform`, which read these two parts.
* `wire_layout`: every message is read as it was made, in whatever object moves have
  put it, and begins with the subscription of its effect and of no other.
-/

namespace MfxProxy

open Lib

/-- Accesses one after the other are one access. -/
theorem deref_bind {α β : Type} (o : Option α) (f : α → Option β) :
    (deref o >>= fun a => deref (f a)) = deref (o.bind f) := by
  cases o <;> rfl

theorem cassert_of {ndebug : Bool} {c : Prop} [Decidable c] (h : c) : cassert ndebug c = .ok () := by
  simp [cassert, h]

namespace Libraries

variable {L : Libraries} {ndebug : Bool} {m : Bytes} {T : MessageType} {message : T.Table}
  {e i j : UInt32}

/-- **The copies of `make_message` write the message** of `Platform.make_message`. -/
theorem make_message_eq :
    L.make_message ndebug T message e i j = .ok (L.toPlatform.make_message T message e i j) := by
  set buf := L.Finish ⟨i, j, T, some message⟩ with hbuf
  have hpos : buf.length > 0 := List.length_pos_iff.2 (L.finish_ne_nil _)
  have hword : (wordBytes L.order e).length = sizeof_uint32_t := wordBytes_length _ _
  have hlen : (L.message_t (sizeof_uint32_t + buf.length)).length =
      (wordBytes L.order e).length + buf.length := by
    rw [L.message_t_length, hword]
  have hfill := Block.fill hlen
  rw [hword] at hfill
  have hcopies : (memcpy (L.message_t (sizeof_uint32_t + buf.length)) 0 (wordBytes L.order e) >>=
      fun msg => memcpy msg sizeof_uint32_t buf) = .ok (wordBytes L.order e ++ buf) := by
    unfold memcpy
    rw [deref_bind, hfill, deref]
  have hassert : cassert ndebug (buf.length > 0) = .ok () := cassert_of hpos
  rw [make_message, ← hbuf, hassert]
  exact hcopies

/-- A message that holds an id passes the assertions of the accessors. -/
theorem cassert_empty (h : sizeof_uint32_t ≤ m.length) : cassert ndebug (m ≠ []) = .ok () := by
  apply cassert_of
  rw [← List.length_pos_iff]
  unfold sizeof_uint32_t at h
  omega

/-- **The envelope is read behind the id.** -/
theorem message_envelope_eq (h : sizeof_uint32_t ≤ m.length) :
    L.message_envelope ndebug m = .ok (L.toPlatform.message_envelope m) := by
  have htail : Block.tail m sizeof_uint32_t = some (m.drop 4) := Block.tail_of_le h
  rw [message_envelope, cassert_empty h, htail]
  rfl

theorem message_thread_id_eq (h : sizeof_uint32_t ≤ m.length) :
    L.message_thread_id ndebug m = .ok (L.toPlatform.message_thread_id m) := by
  rw [message_thread_id, message_envelope_eq h]
  rfl

theorem message_id_eq (h : sizeof_uint32_t ≤ m.length) :
    L.message_id ndebug m = .ok (L.toPlatform.message_id m) := by
  rw [message_id, message_envelope_eq h]
  rfl

theorem message_type_eq (h : sizeof_uint32_t ≤ m.length) :
    L.message_type ndebug m = .ok (L.toPlatform.message_type m) := by
  rw [message_type, message_envelope_eq h]
  rfl

theorem message_as_eq (h : sizeof_uint32_t ≤ m.length) :
    L.message_as ndebug T m = L.toPlatform.message_as T m := by
  rw [message_as, message_envelope_eq h, Platform.message_as]
  rfl

/-- **The id is read from the first four bytes.** -/
theorem effect_id_eq (h : sizeof_uint32_t ≤ m.length) :
    L.effect_id ndebug m = L.toPlatform.effect_id m := by
  have hread : Block.read m 0 sizeof_uint32_t = some (m.take 4) := Block.read_of_le (by omega)
  have hlen : ¬ m.length < 4 := Nat.not_lt.2 h
  rw [effect_id, cassert_empty h, hread, Platform.effect_id, if_neg hlen]
  rfl

variable (L) in
/-- `m` is read as a message `T` with this payload, effect id `e`, thread id `i` and
message id `j`, by code compiled either way, and begins with the subscription of its
effect only. -/
structure Carries (m : Bytes) (T : MessageType) (message : T.Table) (e i j : UInt32) : Prop where
  effect_id : ∀ ndebug, L.effect_id ndebug m = .ok e
  message_thread_id : ∀ ndebug, L.message_thread_id ndebug m = .ok i
  message_id : ∀ ndebug, L.message_id ndebug m = .ok j
  message_type : ∀ ndebug, L.message_type ndebug m = .ok T
  message_as : ∀ ndebug, L.message_as ndebug T m = .ok message
  message_as_ne : ∀ ndebug U, U ≠ T → L.message_as ndebug U m = .error .runtime_error
  message_prefix : ∀ m_effect_id, L.message_prefix m_effect_id <+: m ↔ m_effect_id = e

theorem length_make_message : sizeof_uint32_t ≤ (L.toPlatform.make_message T message e i j).length := by
  simp [Platform.make_message, sizeof_uint32_t]

/-- **A message is read as it was made.** -/
theorem carries_make_message :
    L.Carries (L.toPlatform.make_message T message e i j) T message e i j where
  effect_id _ := by
    rw [effect_id_eq length_make_message, Platform.effect_id_make_message]
  message_thread_id _ := by
    rw [message_thread_id_eq length_make_message, Platform.message_thread_id_make_message]
  message_id _ := by
    rw [message_id_eq length_make_message, Platform.message_id_make_message]
  message_type _ := by
    rw [message_type_eq length_make_message, Platform.message_type_make_message]
  message_as _ := by
    rw [message_as_eq length_make_message, Platform.message_as_make_message]
  message_as_ne _ U hU := by
    rw [message_as_eq length_make_message, Platform.message_as_of_ne (Ne.symm hU)]
  message_prefix _ := Platform.prefix_make_message

end Libraries

/-- **The bytes of a message do not change on its way** through the objects of a process. -/
theorem content_holder {s t : Object → Option Bytes} {x y : Object} {m : Bytes} {ops : List Op}
    (hx : s x = some m) (hrun : runOps s ops = some t) (hy : holder x ops = some y) : t y = some m :=
  Moves.exec_follow hx hrun hy

/-- **The layout of a message.** Whatever the id, the payload and the kind, the accessors
return what `make_message` was given, the message begins with the subscription of its own
effect only, and an object that it is moved to holds this same message. -/
theorem wire_layout (L : Libraries) (ndebug : Bool) (T : MessageType) (message : T.Table)
    (effect_id message_thread_id message_id : UInt32) :
    ∃ m, L.make_message ndebug T message effect_id message_thread_id message_id = .ok m ∧
      L.Carries m T message effect_id message_thread_id message_id ∧
      ∀ (s t : Object → Option Bytes) (x y : Object) (ops : List Op),
        s x = some m → runOps s ops = some t → holder x ops = some y → t y = some m := by
  refine ⟨_, Libraries.make_message_eq, Libraries.carries_make_message, ?_⟩
  intro s t x y ops hx hrun hy
  exact content_holder hx hrun hy

/-- The `msg` of `make_message` is returned, stored and handed on. -/
theorem wire_layout_handed_on : ∃ m t,
    Libraries.reference.make_message false .ActionLoadStart () 7 1 2 = .ok m ∧
    Libraries.reference.Carries m .ActionLoadStart () 7 1 2 ∧
    runOps (Function.update (fun _ => none) (.message_t 0) (some m))
      [.of_message_t 0 (.move 0) [], .destroy (.message_t 0), .of_MfxProxyMessage 1 0 [0xFF],
        .message_t 2 (.move_msg 1) []] = some t ∧
    t (.message_t 2) = some m := by
  obtain ⟨m, hm, hcarries, hmoved⟩ := wire_layout .reference false .ActionLoadStart () 7 1 2
  have hx : Function.update (fun _ => none) (.message_t 0) (some m) (Object.message_t 0) = some m := by simp
  have ht := hmoved _ _ (.message_t 0) (.message_t 2)
    [.of_message_t 0 (.move 0) [], .destroy (.message_t 0), .of_MfxProxyMessage 1 0 [0xFF],
      .message_t 2 (.move_msg 1) []] hx rfl rfl
  exact ⟨m, _, hm, hcarries, rfl, ht⟩

end MfxProxy
