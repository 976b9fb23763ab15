import MfxProxy.Spec.Describe
import MfxProxy.Spec.Message
import Mathlib.Data.Finset.Insert

/-!
# `MfxProxyEffect::MainEntry` and its conversation with the host

`Load`, `Unload` and `Describe` send a request on `m_pub_socket` and block until
`m_sub_socket` has a message, all under `m_effect_lock`. `EffectSession` is one effect
with the threads that call its `MainEntry` and the remote side, which answers the
effect's requests one by one, in order. An answer reaches `m_sub_socket` if that is open
when it is published, and is lost otherwise.

The SDK's `MfxEffect::MainEntry` is not in the repository. It dispatches to the actions
and turns its own suite exception into the status that the exception carries.
-/

namespace MfxProxy

open Lib

/-- The actions that talk to the host. -/
inductive EffectAction
  | Load
  | Unload
  | Describe (descriptor : ℕ)
  deriving DecidableEq

/-- The type of the reply that the action waits for. -/
def EffectAction.reply : EffectAction → MessageType
  | .Load => .ActionLoadEnd
  | .Unload => .ActionUnloadEnd
  | .Describe _ => .ActionDescribeEnd

/-- The request of the action. -/
def EffectAction.request (a : EffectAction) (P : Platform) (m_effect_id message_thread_id : UInt32) : Bytes :=
  match a with
  | .Load => P.make_message .ActionLoadStart () m_effect_id message_thread_id 0
  | .Unload => P.make_message .ActionUnloadStart () m_effect_id message_thread_id 0
  | .Describe _ => P.make_message .ActionDescribeStart () m_effect_id message_thread_id 0

/-- The reply type that matches a request type. -/
def MessageType.reply? : MessageType → Option MessageType
  | .ActionLoadStart => some .ActionLoadEnd
  | .ActionUnloadStart => some .ActionUnloadEnd
  | .ActionDescribeStart => some .ActionDescribeEnd
  | _ => none

/-! ## The effect -/

/-- What the actions use and change. -/
structure EffectState where
  /-- Whether the socket is open. -/
  m_pub_socket : Bool := false
  /-- `none` when closed, otherwise the messages that wait at it, oldest first. -/
  m_sub_socket : Option (List Bytes) := none
  /-- Requests that were sent and not yet answered, oldest first. -/
  unanswered : List Bytes := []
  suite_log : SuiteLog := []

namespace EffectState

/-- The sockets of `Load`: a socket that was open before is closed with what waits at it. -/
def connect (s : EffectState) : EffectState := { s with m_pub_socket := true, m_sub_socket := some [] }

def close (s : EffectState) : EffectState := { s with m_pub_socket := false, m_sub_socket := none }

/-- A message on its way to `m_sub_socket`. -/
def deliver (s : EffectState) (message : Bytes) : EffectState :=
  { s with m_sub_socket := s.m_sub_socket.map (· ++ [message]) }

end EffectState

/-- The code of an effect. -/
abbrev EffectCode := Prog EffectState Fault

namespace EffectCode

/-- `send_message`: a closed socket throws. -/
def send_message (message : Bytes) : EffectCode Unit := do
  let s ← Prog.get
  if s.m_pub_socket then Prog.modify fun s => { s with unanswered := s.unanswered ++ [message] }
  else Prog.throw .error_t

/-- `receive_message`, on the message it takes from the socket. -/
def receive_message (P : Platform) (ndebug : Bool) (m_effect_id : UInt32) (message : Bytes) :
    Except Fault Bytes := do
  let effect_id ← P.effect_id message
  cassert ndebug (effect_id = m_effect_id)
  return message

theorem receive_message_own {P : Platform} {ndebug : Bool} {m_effect_id : UInt32} {message : Bytes}
    (h : P.effect_id message = .ok m_effect_id) : receive_message P ndebug m_effect_id message = .ok message := by
  rw [receive_message, h]
  simp [bind, Except.bind, cassert, pure, Except.pure]

/-- The remote status of a reply, read through a table field that may be absent. -/
def remoteStatus (status : Option FbOfxStatus) : Except Fault OfxStatus := do
  let status ← deref status
  return status.status

/-- An action from its `message_as` on. -/
def act (P : Platform) (S : Suites) (ndebug : Bool) (a : EffectAction) (message : Bytes) : EffectCode OfxStatus :=
  match a with
  | .Load => do
    let action ← Prog.lift (P.message_as .ActionLoadEnd message)
    Prog.lift (remoteStatus action.status)
  | .Unload => do
    let action ← Prog.lift (P.message_as .ActionUnloadEnd message)
    -- the sockets are still open if `message_as` has thrown
    Prog.modify EffectState.close
    Prog.lift (remoteStatus action.status)
  | .Describe descriptor => do
    let action ← Prog.lift (P.message_as .ActionDescribeEnd message)
    let s ← Prog.get
    let (log, result) := (S.replayDescribe ndebug descriptor action).run s.suite_log
    Prog.modify fun s => { s with suite_log := log }
    Prog.lift result

/-- An action from the message that its `receive_message` takes on. -/
def finish (P : Platform) (S : Suites) (ndebug : Bool) (m_effect_id : UInt32) (a : EffectAction) (message : Bytes) :
    EffectCode OfxStatus := do
  let message ← Prog.lift (receive_message P ndebug m_effect_id message)
  act P S ndebug a message

end EffectCode

/-- What `MainEntry` makes of the way the action ended. -/
def MainEntry : Except Fault OfxStatus → Except Fault OfxStatus
  | .error .error_t => .ok kOfxStatFailed
  | .error (.suite status) => .ok status
  | result => result

/-! ## The effect, its callers and the remote side -/

/-- Where a `MainEntry` call that holds `m_effect_lock` is. -/
inductive EntryPhase
  /-- `Load` is about to open the sockets. -/
  | connecting
  /-- The action is about to send its request. -/
  | requesting (a : EffectAction)
  /-- The action is at `receive_message`; its request has this thread id. -/
  | receiving (a : EffectAction) (message_thread_id : UInt32)
  /-- The action is over. -/
  | leaving (result : Except Fault OfxStatus)

def EntryPhase.start : EffectAction → EntryPhase
  | .Load => .connecting
  | a => .requesting a

/-- An effect with the threads `τ` that call it. -/
structure EffectSession (τ : Type) where
  effect : EffectState := {}
  /-- The thread that holds the mutex, and where its call is. -/
  m_effect_lock : Option (τ × EntryPhase) := none
  /-- What `generate_message_thread_id` has returned so far. -/
  generated : List UInt32 := []
  /-- How the calls so far ended, the last one first. -/
  ended : List (τ × Except Fault OfxStatus) := []

inductive EffectEvent (τ : Type)
  /-- A thread calls `MainEntry` and gets the mutex. -/
  | enter (t : τ) (a : EffectAction)
  /-- `Load` opens the sockets. -/
  | connect
  /-- The action generates this id and sends its request. -/
  | request (message_thread_id : UInt32)
  /-- The oldest unanswered request is answered and the answer published. -/
  | answer (T : MessageType) (message : T.Table) (message_id : UInt32)
  /-- `receive_message` takes a message, and the action goes on to its end. -/
  | receive
  /-- `receive_message` throws. -/
  | receiveError
  /-- `MainEntry` releases the mutex and ends. -/
  | leave

namespace EffectSession

variable {τ : Type} (P : Platform) (S : Suites) (ndebug : Bool) (m_effect_id : UInt32) (s : EffectSession τ)

/-- The call of thread `t` goes on in `phase`. -/
def goto (t : τ) (phase : EntryPhase) : EffectSession τ := { s with m_effect_lock := some (t, phase) }

/-- The action of thread `t` ends as `code` does. -/
def run (t : τ) (code : EffectCode OfxStatus) : EffectSession τ :=
  let (effect, result) := code.run s.effect
  { s with effect := effect }.goto t (.leaving (MainEntry result))

/-- The request of an action. -/
def sendRequest (t : τ) (a : EffectAction) (message_thread_id : UInt32) : EffectSession τ :=
  -- the id is spent even if the socket is closed
  let s := { s with generated := message_thread_id :: s.generated }
  match (EffectCode.send_message (a.request P m_effect_id message_thread_id)).run s.effect with
  | (effect, .ok ()) => { s with effect := effect }.goto t (.receiving a message_thread_id)
  | (_, .error f) => s.run t (Prog.throw f)

/-- The oldest message that waits for the effect. -/
def takeMessage : Option (Bytes × EffectSession τ) :=
  match s.effect.m_sub_socket with
  | some (message :: messages) =>
    some (message, { s with effect := { s.effect with m_sub_socket := some messages } })
  | _ => none

end EffectSession

/-- One event. The ids that `generate_message_thread_id` returns are distinct. -/
def effectStep {τ : Type} (P : Platform) (S : Suites) (ndebug : Bool) (m_effect_id : UInt32) (s : EffectSession τ) :
    EffectEvent τ → Option (EffectSession τ)
  | .enter t a =>
    match s.m_effect_lock with
    | none => some (s.goto t (.start a))
    -- the mutex is taken: the thread blocks
    | some _ => none
  | .connect =>
    match s.m_effect_lock with
    | some (t, .connecting) => some ({ s with effect := s.effect.connect }.goto t (.requesting .Load))
    | _ => none
  | .request message_thread_id =>
    match s.m_effect_lock with
    | some (t, .requesting a) =>
      if message_thread_id ∈ s.generated then none else some (s.sendRequest P m_effect_id t a message_thread_id)
    | _ => none
  | .answer T message message_id =>
    match s.effect.unanswered with
    | request :: requests =>
      if (P.message_type request).reply? = some T then
        -- the reply carries the thread id of its request
        let reply := P.make_message T message m_effect_id (P.message_thread_id request) message_id
        some { s with effect := EffectState.deliver { s.effect with unanswered := requests } reply }
      else none
    | [] => none
  | .receive =>
    match s.m_effect_lock with
    | some (t, .receiving a _) =>
      s.takeMessage.map fun (message, s) => s.run t (EffectCode.finish P S ndebug m_effect_id a message)
    | _ => none
  | .receiveError =>
    match s.m_effect_lock with
    | some (t, .receiving _ _) => some (s.run t (Prog.throw .error_t))
    | _ => none
  | .leave =>
    match s.m_effect_lock with
    | some (t, .leaving (.ok status)) => some { s with m_effect_lock := none, ended := (t, .ok status) :: s.ended }
    | some (t, .leaving (.error f)) =>
      -- after a fatal fault there is no process left to release the mutex
      if f.fatal then none else some { s with m_effect_lock := none, ended := (t, .error f) :: s.ended }
    | _ => none

end MfxProxy
