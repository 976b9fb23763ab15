import MfxProxy.Lib.Block
import MfxProxy.Lib.Moves
import MfxProxy.Spec.Message

/-!
# `MfxProxyMessage` in memory

`MfxProxy.Spec.Message` takes a message for its bytes. Here are the copies that write
these bytes into a fresh `zmq::message_t`, the accessors with their assertions and
bounds, and the moves that hand a message from one object to another. `ndebug` says
whether the code at hand is compiled with `NDEBUG`.
-/

namespace MfxProxy

open Lib

/-- What the code takes from FlatBuffers, the machine and zmq. -/
structure Libraries extends Platform where
  /-- A finished buffer is not empty. -/
  finish_ne_nil : ∀ e, Finish e ≠ []
  /-- The bytes of a new `zmq::message_t(size)`, which zmq does not initialise. -/
  message_t : ℕ → Bytes
  message_t_length : ∀ size, (message_t size).length = size

def sizeof_uint32_t : ℕ := 4

/-- `memcpy(m + offset, src, src_size)` -/
def memcpy (m : Bytes) (offset : ℕ) (src : Bytes) : Except Fault Bytes :=
  deref (Block.write m offset src)

namespace Libraries

variable (L : Libraries) (ndebug : Bool)

/-- `MfxProxyMessage::make_message<T>`, up to the move of `msg` into the message it
returns. `T = NONE` (the `static_assert`) has no table. -/
def make_message (T : MessageType) (message : T.Table) (effect_id message_thread_id message_id : UInt32) :
    Except Fault Bytes := do
  let message_envelope : MessageEnvelope := ⟨message_thread_id, message_id, T, some message⟩
  let buf := L.Finish message_envelope
  let bufsize := buf.length
  cassert ndebug (bufsize > 0)
  let msg := L.message_t (sizeof_uint32_t + bufsize)
  let msg ← memcpy msg 0 (wordBytes L.order effect_id)
  memcpy msg sizeof_uint32_t buf

/-- `MfxProxyMessage::message_envelope` -/
def message_envelope (m_msg : Bytes) : Except Fault MessageEnvelope := do
  cassert ndebug (m_msg ≠ [])
  let flatbuffer_ptr ← deref (Block.tail m_msg sizeof_uint32_t)
  return L.GetMessageEnvelope flatbuffer_ptr

/-- `MfxProxyMessage::effect_id` -/
def effect_id (m_msg : Bytes) : Except Fault UInt32 := do
  cassert ndebug (m_msg ≠ [])
  let data ← deref (Block.read m_msg 0 sizeof_uint32_t)
  return wordOf L.order data

def message_id (m_msg : Bytes) : Except Fault UInt32 := do
  return (← L.message_envelope ndebug m_msg).message_id

def message_thread_id (m_msg : Bytes) : Except Fault UInt32 := do
  return (← L.message_envelope ndebug m_msg).message_thread_id

def message_type (m_msg : Bytes) : Except Fault MessageType := do
  return (← L.message_envelope ndebug m_msg).message_type

/-- `MfxProxyMessage::message_as<T>` -/
def message_as (T : MessageType) (m_msg : Bytes) : Except Fault T.Table := do
  match (← L.message_envelope ndebug m_msg).message_as T with
  | some ptr => .ok ptr
  | none => .error .runtime_error

end Libraries

/-! ## Moves -/

/-- A `zmq::message_t`: a variable, or the `m_msg` of an `MfxProxyMessage`. -/
inductive Object
  | message_t (x : ℕ)
  | m_msg (x : ℕ)
  deriving DecidableEq

/-- A `zmq::message_t&&`, as the code writes it. -/
inductive Rvalue
  /-- `std::move(x)` of a `zmq::message_t` -/
  | move (x : ℕ)
  /-- `x.move_msg()` of an `MfxProxyMessage` -/
  | move_msg (x : ℕ)

/-- The object an rvalue refers to. -/
def Rvalue.object : Rvalue → Object
  | .move x => .message_t x
  | .move_msg x => .m_msg x

/-- What a process does with messages. A move leaves `left` in its source. -/
inductive Op
  /-- An object comes to life other than by a move: `zmq` fills it, or it is the `msg` of
  `make_message`. -/
  | create (x : Object) (content : Bytes)
  /-- `zmq::message_t x(msg)` -/
  | message_t (x : ℕ) (msg : Rvalue) (left : Bytes)
  /-- `x = msg` for a `zmq::message_t` -/
  | assign (x : ℕ) (msg : Rvalue) (left : Bytes)
  /-- `MfxProxyMessage(zmq::message_t&& msg)` -/
  | of_message_t (x : ℕ) (msg : Rvalue) (left : Bytes)
  /-- `MfxProxyMessage(MfxProxyMessage&& msg)` -/
  | of_MfxProxyMessage (x msg : ℕ) (left : Bytes)
  | destroy (x : Object)

/-- Each constructor of `MfxProxyMessage` moves into its `m_msg`; there is no assignment. -/
def Op.event : Op → Moves.Event Object Bytes
  | .create x content => .create x content
  | .message_t x msg left => .construct (.message_t x) msg.object left
  | .assign x msg left => .assign (.message_t x) msg.object left
  | .of_message_t x msg left => .construct (.m_msg x) msg.object left
  | .of_MfxProxyMessage x msg left => .construct (.m_msg x) (.m_msg msg) left
  | .destroy x => .destroy x

/-- The objects after a list of operations. -/
def runOps (s : Object → Option Bytes) (ops : List Op) : Option (Object → Option Bytes) :=
  exec Moves.step s (ops.map Op.event)

/-- The object in which the operations leave the content of `x`. -/
def holder (x : Object) (ops : List Op) : Option Object :=
  exec Moves.follow x (ops.map Op.event)

end MfxProxy
