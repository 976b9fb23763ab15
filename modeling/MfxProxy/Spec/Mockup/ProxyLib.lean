import MfxProxy.Lib.Monitor
import MfxProxy.Spec.Mockup.Message

/-!
# The mockup in two processes

`proxy_lib.Message` with its codec, and the handshake of the two brokers: the first
message of `ProxyHostBroker`, the block in which `ProxyPluginBroker.run_proxy_thread`
waits for it, and `wait_for_status_ready`, called by the threads `τ`.

A wait on a `Condition` ends by a notification only, and an exception leaves a `with`
block by releasing its lock. What is printed is left out.
-/

namespace MfxProxy.Mockup.ProxyLib

open Lib

/-! ## `Message` -/

inductive MessageType
  | ActionDescribeStart
  | ActionDescribeEnd
  | RemoteHostStarted
  deriving DecidableEq

namespace MessageType

def name : MessageType → String
  | .ActionDescribeStart => "ActionDescribeStart"
  | .ActionDescribeEnd => "ActionDescribeEnd"
  | .RemoteHostStarted => "RemoteHostStarted"

/-- The value of an enumeration member is its name. -/
def value (T : MessageType) : String := T.name

/-- `f"{T}"`: the class is a `str` and an `Enum`, and formats as the `Enum`. -/
def format (T : MessageType) : String := "MessageType." ++ T.name

/-- `MessageType(value)` -/
def ofValue (s : String) : Except PyError MessageType :=
  if s = value .ActionDescribeStart then .ok .ActionDescribeStart
  else if s = value .ActionDescribeEnd then .ok .ActionDescribeEnd
  else if s = value .RemoteHostStarted then .ok .RemoteHostStarted
  else .error .ValueError

end MessageType

structure Message where
  instance_id : ℤ
  type_ : MessageType
  data : Json

namespace Message

variable (py : Python)

def get_instance_prefix (instance_id : ℤ) : Except PyError Bytes := do
  let prefix_ ← py.format_08d instance_id
  encode_ascii prefix_

def to_bytes (self : Message) : Except PyError Bytes := do
  let instance_id ← py.format_08d self.instance_id
  encode_ascii (instance_id ++ "/" ++ self.type_.format ++ "/" ++ py.dumps self.data)

def from_bytes (s : Bytes) : Except PyError Message := do
  -- at most two cuts: a `/` in the data stays
  let tmp := splitMax 47 2 s
  let instance_id ← py.int (← decode_ascii (← getitem tmp 0))
  let type_ ← MessageType.ofValue (← decode_ascii (← getitem tmp 1))
  let data ← py.loads (← getitem tmp 2)
  return { instance_id := instance_id, type_ := type_, data := data }

end Message

/-- The first message of `ProxyHostBroker.run_proxy_thread`. -/
def remoteHostStarted : Message where
  instance_id := -1
  type_ := .RemoteHostStarted
  data := .dict []

/-! ## `ProxyPluginBroker` -/

/-- Where `run_proxy_thread` is. -/
inductive BrokerPhase
  | start
  /-- In the `with` block, at `poll`. -/
  | entered
  /-- A message was received and decoded, or none came within the poll. -/
  | received (msg : Option Message)
  /-- `status_ready` is assigned. -/
  | assigned
  | notified
  /-- Out of the block, in the main loop. -/
  | main
  /-- In the block, with an exception under way. -/
  | raising (e : PyError)
  /-- The exception has left the block and ended the thread. -/
  | raised (e : PyError)

/-- Where a call of `wait_for_status_ready` is. -/
inductive CallPhase
  | outside
  /-- At the `with`. -/
  | called
  /-- In the block, about to evaluate the predicate of `wait_for`. -/
  | testing
  /-- In `wait`: blocked, or about to take the lock again. -/
  | waiting
  /-- Past `wait_for`, still in the block. -/
  | leaving (result : Option Bool)
  | returned (result : Option Bool)

inductive Thread (τ : Type)
  | broker
  | caller (t : τ)
  deriving DecidableEq

structure ProxyPluginBroker (τ : Type) where
  status_ready : Option Bool := none
  status_ready_condvar : Monitor (Thread τ) := {}
  phase : BrokerPhase := .start
  call : τ → CallPhase := fun _ => .outside

inductive BrokerEvent (τ : Type)
  | enter
  /-- `poll`, `recv` and `from_bytes`. -/
  | receive
  | assign
  | notify_all
  /-- The end of the block, whether or not by an exception. -/
  | leave
  | call (t : τ)
  | lock (t : τ)
  /-- The predicate is evaluated; the call goes to sleep or reads what it returns. -/
  | test (t : τ)
  | relock (t : τ)
  | unlock (t : τ)

namespace ProxyPluginBroker

variable {τ : Type} [DecidableEq τ] (py : Python) (first : Option Bytes)

/-- What the block has to look at, when `first` is what arrives within the poll. -/
def receive : Except PyError (Option Message) :=
  match first with
  | some data => (Message.from_bytes py data).map some
  | none => .ok none

/-- What the block assigns to `status_ready`. -/
def status : Option Message → Bool
  | some msg => msg.type_ = .RemoteHostStarted
  | none => false

/-- One event. -/
def step (self : ProxyPluginBroker τ) : BrokerEvent τ → Option (ProxyPluginBroker τ)
  | .enter =>
    match self.phase with
    | .start =>
      (self.status_ready_condvar.lock .broker).map fun m =>
        { self with status_ready_condvar := m, phase := .entered }
    | _ => none
  | .receive =>
    match self.phase with
    | .entered =>
      match receive py first with
      | .ok msg => some { self with phase := .received msg }
      -- `status_ready` is not assigned and nobody is notified
      | .error e => some { self with phase := .raising e }
    | _ => none
  | .assign =>
    match self.phase with
    | .received msg => some { self with status_ready := some (status msg), phase := .assigned }
    | _ => none
  | .notify_all =>
    match self.phase with
    | .assigned =>
      some { self with status_ready_condvar := self.status_ready_condvar.notify_all, phase := .notified }
    | _ => none
  | .leave =>
    match self.phase with
    | .notified =>
      (self.status_ready_condvar.unlock .broker).map fun m =>
        { self with status_ready_condvar := m, phase := .main }
    | .raising e =>
      (self.status_ready_condvar.unlock .broker).map fun m =>
        { self with status_ready_condvar := m, phase := .raised e }
    | _ => none
  | .call t =>
    match self.call t with
    | .outside | .returned _ => some { self with call := Function.update self.call t .called }
    | _ => none
  | .lock t =>
    match self.call t with
    | .called =>
      (self.status_ready_condvar.lock (.caller t)).map fun m =>
        { self with status_ready_condvar := m, call := Function.update self.call t .testing }
    | _ => none
  | .test t =>
    match self.call t with
    | .testing =>
      match self.status_ready with
      | none =>
        (self.status_ready_condvar.wait (.caller t)).map fun m =>
          { self with status_ready_condvar := m, call := Function.update self.call t .waiting }
      | some ready => some { self with call := Function.update self.call t (.leaving (some ready)) }
    | _ => none
  -- `wait_for` goes round: the predicate is evaluated again
  | .relock t =>
    match self.call t with
    | .waiting =>
      (self.status_ready_condvar.lock (.caller t)).map fun m =>
        { self with status_ready_condvar := m, call := Function.update self.call t .testing }
    | _ => none
  | .unlock t =>
    match self.call t with
    | .leaving result =>
      (self.status_ready_condvar.unlock (.caller t)).map fun m =>
        { self with status_ready_condvar := m, call := Function.update self.call t (.returned result) }
    | _ => none

end ProxyPluginBroker

end MfxProxy.Mockup.ProxyLib
