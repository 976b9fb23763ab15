import MfxProxy.Lib.Exec
import MfxProxy.Spec.Effect

/-!
# Calls of `MainEntry`, whatever the sockets do

One call of `MainEntry` for `Load`, `Unload` or `Describe`, as a whole. Each socket
operation may throw, and `receive_message` may take any message that carries the id of the
effect: what waits at `m_sub_socket` need not answer the request of this call. A closed
socket throws.

An exception that `MainEntry` does not catch passes to the caller, and the `lock_guard`
releases `m_effect_lock` on the way. After a fatal fault there is no process left to do so.
-/

namespace MfxProxy

open Lib

/-- The socket operations of the actions. -/
inductive SocketOp
  /-- The constructors of the two sockets. -/
  | pub_socket
  | sub_socket
  | pub_connect
  | sub_connect
  /-- The subscription. -/
  | sub_set
  | send
  | recv
  deriving DecidableEq

/-- One call of `MainEntry`, and what the outside makes of it. -/
structure EntryCall (P : Platform) (m_effect_id : UInt32) where
  action : EffectAction
  /-- Whether an operation throws `zmq::error_t`. -/
  throws : SocketOp → Bool
  message_thread_id : UInt32
  /-- What `recv` takes, if it does not throw. -/
  message : Bytes
  /-- The subscription of the effect has admitted it. -/
  own : P.effect_id message = .ok m_effect_id

namespace EntryCall

variable {P : Platform} {m_effect_id : UInt32} (c : EntryCall P m_effect_id)

def op (o : SocketOp) : EffectCode Unit := if c.throws o then Prog.throw .error_t else pure ()

/-- The sockets of `Load`. -/
def open_sockets : EffectCode Unit := do
  c.op .pub_socket
  Prog.modify fun s => { s with m_pub_socket := true }
  c.op .sub_socket
  Prog.modify fun s => { s with m_sub_socket := some [] }
  c.op .pub_connect
  c.op .sub_connect
  c.op .sub_set

def send : EffectCode Unit := do
  c.op .send
  EffectCode.send_message (c.action.request P m_effect_id c.message_thread_id)

def recv : EffectCode Bytes := do
  let s ← Prog.get
  if s.m_sub_socket.isSome then
    c.op .recv
    return c.message
  else Prog.throw .error_t

/-- `Load`, `Unload` and `Describe`. -/
def run (S : Suites) (ndebug : Bool) : EffectCode OfxStatus := do
  if c.action = .Load then c.open_sockets
  c.send
  let message ← c.recv
  EffectCode.finish P S ndebug m_effect_id c.action message

end EntryCall

/-- An effect between the calls of its `MainEntry`. -/
structure EntryState where
  effect : EffectState := {}
  /-- The mutex is held. -/
  m_effect_lock : Bool := false
  /-- How the calls so far ended, the last one first. -/
  ended : List (Except Fault OfxStatus) := []

/-- The mutex stays held: the process is gone. -/
def staysLocked : Except Fault OfxStatus → Bool
  | .error f => f.fatal
  | .ok _ => false

/-- One call, which blocks if the mutex is held. -/
def entryStep {P : Platform} (S : Suites) (ndebug : Bool) {m_effect_id : UInt32} (s : EntryState)
    (c : EntryCall P m_effect_id) : Option EntryState :=
  if s.m_effect_lock then none
  else
    let (effect, result) := (c.run S ndebug).run s.effect
    some
      { effect := effect
        m_effect_lock := staysLocked (MainEntry result)
        ended := MainEntry result :: s.ended }

end MfxProxy
