import MfxProxy.Proof.Flatbuffers.Envelope
import MfxProxy.Proof.Wire

/-!
# FlatBuffers as the platform

`Platform` takes FlatBuffers for a `Finish` and a root access that are inverse on every envelope.
The builder and the readers are inverse on the envelopes that fit into a buffer. `platform` is
FlatBuffers there; what need not fit, where an assertion of the builder may fail, it writes field
by field behind more bytes than a buffer can have.

* `Finish_of_fits`: on what fits, `Finish` is the builder's buffer and root access the readers'.
* `message_in_buffer`: a message that fits is its `effect_id` in front of that buffer, and is read
  as it was made.
-/

namespace MfxProxy.Flatbuffers

open Lib Prog FlatBufferBuilder

namespace Generated

variable (G : Generated)

/-- The envelope fits into a buffer however it is laid out: `weight` bounds the bytes that it
takes, with all padding and a vtable for each table, and is larger than the buffer built. -/
def Fits (e : MfxProxy.MessageEnvelope) : Prop := G.MessageEnvelope.weight e + 24 < FLATBUFFERS_MAX_BUFFER_SIZE

instance (e : MfxProxy.MessageEnvelope) : Decidable (G.Fits e) := inferInstanceAs (Decidable (_ < _))

/-- The finished buffer of a fresh builder. -/
def buffer (e : MfxProxy.MessageEnvelope) : Except Fault Bytes := ((G.finish e).run {}).2

theorem buffer_ok {e : MfxProxy.MessageEnvelope} (h : G.Fits e) :
    ∃ buf, G.buffer e = .ok buf ∧ buf.length < FLATBUFFERS_MAX_BUFFER_SIZE ∧ G.GetMessageEnvelope buf = .ok e := by
  have hclean : ({} : FlatBufferBuilder).Clean :=
    ⟨rfl, rfl, rfl, fun _ hv => absurd hv List.not_mem_nil, Or.inl rfl⟩
  have hroom : ([] : Bytes).length + (G.MessageEnvelope.weight e + 24) < FLATBUFFERS_MAX_BUFFER_SIZE := by
    rw [List.length_nil, Nat.zero_add]
    exact h
  obtain ⟨t, buf, hrun, hsize, hread⟩ := G.returns_finish e {} hclean hroom
  exact ⟨buf, by rw [buffer, hrun], hsize, hread⟩

/-- What is longer than a buffer. -/
def tooLong (bytes : Bytes) : Bytes := List.replicate FLATBUFFERS_MAX_BUFFER_SIZE 0 ++ bytes

/-- **FlatBuffers on a little-endian machine**, where an envelope fits. -/
def platform : Platform where
  order := .little
  Finish e :=
    match G.buffer e with
    | .ok buf => if G.Fits e then buf else tooLong (Platform.reference.Finish e)
    | .error _ => tooLong (Platform.reference.Finish e)
  GetMessageEnvelope buf :=
    if buf.length < FLATBUFFERS_MAX_BUFFER_SIZE then
      match G.GetMessageEnvelope buf with
      | .ok e => e
      | .error _ => ⟨0, 0, .NONE, none⟩
    else Platform.reference.GetMessageEnvelope (buf.drop FLATBUFFERS_MAX_BUFFER_SIZE)
  root_finish e := by
    have hlong : ∀ bytes, ¬ (tooLong bytes).length < FLATBUFFERS_MAX_BUFFER_SIZE := by
      intro bytes
      rw [tooLong, List.length_append, List.length_replicate]
      omega
    have hdrop : ∀ bytes, (tooLong bytes).drop FLATBUFFERS_MAX_BUFFER_SIZE = bytes := fun bytes =>
      List.drop_left' List.length_replicate
    by_cases hfits : G.Fits e
    · obtain ⟨buf, hbuf, hsize, hread⟩ := G.buffer_ok hfits
      simp only [hbuf, if_pos hfits, if_pos hsize, hread]
    · have hfinish : (match G.buffer e with
          | .ok buf => if G.Fits e then buf else tooLong (Platform.reference.Finish e)
          | .error _ => tooLong (Platform.reference.Finish e)) = tooLong (Platform.reference.Finish e) := by
        cases G.buffer e with
        | ok buf => exact if_neg hfits
        | error _ => rfl
      rw [hfinish, if_neg (hlong _), hdrop, Platform.reference.root_finish]

variable {G} {e : MfxProxy.MessageEnvelope}

/-- **On what fits, the platform is FlatBuffers**: the builder's buffer, and the readers' root. -/
theorem Finish_of_fits (h : G.Fits e) :
    G.buffer e = .ok (G.platform.Finish e) ∧ G.GetMessageEnvelope (G.platform.Finish e) = .ok e := by
  obtain ⟨buf, hbuf, -, hread⟩ := G.buffer_ok h
  have hfinish : G.platform.Finish e = buf := by
    simp only [platform, hbuf, if_pos h]
  rw [hfinish]
  exact ⟨hbuf, hread⟩

theorem Finish_ne_nil : G.platform.Finish e ≠ [] := by
  intro hnil
  by_cases hfits : G.Fits e
  · -- an empty buffer has no root
    obtain ⟨-, hread⟩ := Finish_of_fits hfits
    rw [hnil] at hread
    cases hread
  · have hlong : G.platform.Finish e = tooLong (Platform.reference.Finish e) := by
      unfold platform
      cases hbuf : G.buffer e with
      | ok buf => simp only [hbuf, if_neg hfits]
      | error f => simp only [hbuf]
    have hlen : (tooLong (Platform.reference.Finish e)).length = 0 := by
      rw [← hlong, hnil]
      rfl
    rw [tooLong, List.length_append, List.length_replicate] at hlen
    simp [FLATBUFFERS_MAX_BUFFER_SIZE] at hlen

/-- FlatBuffers with the memory that zmq hands out. -/
def libraries (G : Generated) (message_t : (size : ℕ) → { bytes : Bytes // bytes.length = size }) : Libraries where
  toPlatform := G.platform
  finish_ne_nil _ := Finish_ne_nil
  message_t size := (message_t size).1
  message_t_length size := (message_t size).2

/-- **A message in a buffer of FlatBuffers.** A message that fits is the bytes of its `effect_id`
and then the builder's buffer, where the readers find the envelope; the accessors return what
`make_message` was given, and the message begins with the subscription of its effect only. -/
theorem message_in_buffer (message_t : (size : ℕ) → { bytes : Bytes // bytes.length = size }) (ndebug : Bool)
    {T : MessageType} {message : T.Table} (effect_id : UInt32) {message_thread_id message_id : UInt32}
    (h : G.Fits ⟨message_thread_id, message_id, T, some message⟩) :
    ∃ buf, G.buffer ⟨message_thread_id, message_id, T, some message⟩ = .ok buf ∧
      G.GetMessageEnvelope buf = .ok ⟨message_thread_id, message_id, T, some message⟩ ∧
      (G.libraries message_t).make_message ndebug T message effect_id message_thread_id message_id =
        .ok (wordBytes .little effect_id ++ buf) ∧
      (G.libraries message_t).Carries (wordBytes .little effect_id ++ buf) T message effect_id message_thread_id
        message_id := by
  obtain ⟨hbuf, hread⟩ := Finish_of_fits h
  exact ⟨_, hbuf, hread, Libraries.make_message_eq, Libraries.carries_make_message⟩

theorem load_in_buffer : ∃ buf, reference.buffer ⟨7, 0, .ActionLoadStart, some ()⟩ = .ok buf ∧
    reference.GetMessageEnvelope buf = .ok ⟨7, 0, .ActionLoadStart, some ()⟩ ∧
    (reference.libraries fun size => ⟨List.replicate size 0xCD, List.length_replicate⟩).make_message
      false .ActionLoadStart () 3 7 0 = .ok (wordBytes .little 3 ++ buf) ∧
    (reference.libraries fun size => ⟨List.replicate size 0xCD, List.length_replicate⟩).Carries
      (wordBytes .little 3 ++ buf) .ActionLoadStart () 3 7 0 :=
  message_in_buffer _ false 3 (by decide)

end Generated

end MfxProxy.Flatbuffers
