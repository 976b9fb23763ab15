import MfxProxy.Spec.Entry
import MfxProxy.Proof.Partial
import MfxProxy.Spec.Reference

/-!
# What `MainEntry` lets out

`MainEntry` catches `zmq::error_t`, and the SDK its own suite exception. The exception of
`message_as` on a message of another type is neither, and a message without its status is
read through a null pointer.

* `receive_triple`: a call, up to the message it takes.
* `contained_iff`: one call.
* `entry_contains_iff`: every run.
-/

namespace MfxProxy

open Lib

variable {P : Platform} {S : Suites} {ndebug : Bool} {m_effect_id : UInt32} {s t : EntryState}
  {c : EntryCall P m_effect_id}

/-! ## What is to be shown -/

/-- Whatever `entryStep` makes of a call, it returns a status and releases the mutex, and the
status is not OK if the message is not a reply to the action. -/
def Contained (S : Suites) (ndebug : Bool) (s : EntryState) (c : EntryCall P m_effect_id) : Prop :=
  ∀ t, entryStep S ndebug s c = some t → t.m_effect_lock = false ∧
    ∃ status, t.ended = .ok status :: s.ended ∧ (P.message_type c.message ≠ c.action.reply → status ≠ kOfxStatOK)

/-- The socket operations of `Load` before its request. -/
def loadOps : List SocketOp := [.pub_socket, .sub_socket, .pub_connect, .sub_connect, .sub_set]

/-- No socket operation of the call throws: it takes its message. -/
def EntryCall.Receives (c : EntryCall P m_effect_id) (s : EffectState) : Prop :=
  c.throws .send = false ∧ c.throws .recv = false ∧
    if c.action = .Load then ∀ o ∈ loadOps, c.throws o = false
    else s.m_pub_socket = true ∧ s.m_sub_socket.isSome = true

/-- The message is the reply to the action, with its status; in the reply to `Describe`
nothing is absent that the replay comes to before a property cannot be set. -/
def EntryCall.Answered (c : EntryCall P m_effect_id) (S : Suites) (ndebug : Bool) (log : SuiteLog) : Prop :=
  match c.action with
  | .Load => ∃ action, P.message_as .ActionLoadEnd c.message = .ok action ∧ action.status ≠ none
  | .Unload => ∃ action, P.message_as .ActionUnloadEnd c.message = .ok action ∧ action.status ≠ none
  | .Describe descriptor => ∃ action, P.message_as .ActionDescribeEnd c.message = .ok action ∧
      ∀ f, (action.plan ndebug descriptor).fault = some f → f.fatal = true →
        ¬ S.machine.Clear { log := log } (action.plan ndebug descriptor).steps

/-! ## One call, up to its message -/

section receive

variable {I : EffectState → Prop} {E : Fault → EffectState → Prop} {o : SocketOp}

theorem op_triple (hE : ∀ s, c.throws o = true → I s → E .error_t s) :
    Prog.Triple I (c.op o) (fun _ s => I s ∧ c.throws o = false) E := by
  intro s hs
  unfold EntryCall.op
  cases ho : c.throws o with
  | true => exact hE s ho hs
  | false => exact ⟨hs, rfl⟩

/-- The sockets are open, and the log is as it was. -/
def Opened (log : SuiteLog) (s : EffectState) : Prop :=
  s.m_pub_socket = true ∧ s.m_sub_socket.isSome = true ∧ s.suite_log = log

theorem open_sockets_triple (log : SuiteLog) : Prog.Triple (·.suite_log = log) c.open_sockets
    (fun _ s => Opened log s ∧ ∀ o ∈ loadOps, c.throws o = false)
    (fun f _ => f = .error_t ∧ ¬ ∀ o ∈ loadOps, c.throws o = false) := by
  have hfails : ∀ {o} {J : EffectState → Prop}, o ∈ loadOps → ∀ s, c.throws o = true → J s →
      Fault.error_t = .error_t ∧ ¬ ∀ o ∈ loadOps, c.throws o = false := by
    intro o J ho s hthrows _
    refine ⟨rfl, fun hall => ?_⟩
    rw [hall o ho] at hthrows
    cases hthrows
  refine (op_triple (hfails (by simp [loadOps]))).bind fun _ => Prog.triple_and_pure fun h₁ => ?_
  refine Prog.Triple.bind (Q := fun _ s => s.m_pub_socket = true ∧ s.suite_log = log)
    (Prog.triple_modify fun _ hs => ⟨rfl, hs⟩) fun _ => ?_
  refine (op_triple (hfails (by simp [loadOps]))).bind fun _ => Prog.triple_and_pure fun h₂ => ?_
  refine Prog.Triple.bind (Q := fun _ => Opened log) (Prog.triple_modify fun _ hs => ⟨hs.1, rfl, hs.2⟩) fun _ => ?_
  refine (op_triple (hfails (by simp [loadOps]))).bind fun _ => Prog.triple_and_pure fun h₃ => ?_
  refine (op_triple (hfails (by simp [loadOps]))).bind fun _ => Prog.triple_and_pure fun h₄ => ?_
  refine (op_triple (hfails (by simp [loadOps]))).conseq (fun _ h => h) ?_ fun _ _ h => h
  rintro _ s ⟨hs, h₅⟩
  exact ⟨hs, by simp [loadOps, h₁, h₂, h₃, h₄, h₅]⟩

/-- The request, on a socket that may be closed. -/
theorem send_triple (s₀ : EffectState) : Prog.Triple (· = s₀) c.send
    (fun _ s => (s.m_sub_socket = s₀.m_sub_socket ∧ s.suite_log = s₀.suite_log) ∧
      c.throws .send = false ∧ s₀.m_pub_socket = true)
    (fun f _ => f = .error_t ∧ ¬ (c.throws .send = false ∧ s₀.m_pub_socket = true)) := by
  have hfails : ∀ s, c.throws .send = true → s = s₀ →
      Fault.error_t = .error_t ∧ ¬ (c.throws .send = false ∧ s₀.m_pub_socket = true) := by
    intro s hthrows _
    refine ⟨rfl, fun h => ?_⟩
    rw [hthrows] at h
    cases h.1
  refine (op_triple hfails).bind fun _ => Prog.triple_and_pure fun hsend => ?_
  refine Prog.triple_get_bind fun s hs => ?_
  subst hs
  refine Prog.triple_ite (fun hpub => ?_) fun hpub => ?_
  · refine Prog.triple_modify fun t ht => ?_
    subst ht
    exact ⟨⟨rfl, rfl⟩, hsend, hpub⟩
  · exact Prog.triple_throw fun _ _ => ⟨rfl, fun h => hpub h.2⟩

/-- The message, from a socket that may be closed. -/
theorem recv_triple (log : SuiteLog) (m_sub_socket : Option (List Bytes)) :
    Prog.Triple (fun s => s.m_sub_socket = m_sub_socket ∧ s.suite_log = log) c.recv
      (fun message s => s.suite_log = log ∧ message = c.message ∧ c.throws .recv = false ∧ m_sub_socket.isSome = true)
      (fun f _ => f = .error_t ∧ ¬ (c.throws .recv = false ∧ m_sub_socket.isSome = true)) := by
  refine Prog.triple_get_bind fun s hs => ?_
  obtain ⟨rfl, rfl⟩ := hs
  have hfails : ∀ t, c.throws .recv = true → t = s →
      Fault.error_t = .error_t ∧ ¬ (c.throws .recv = false ∧ s.m_sub_socket.isSome = true) := by
    intro t hthrows _
    refine ⟨rfl, fun h => ?_⟩
    rw [hthrows] at h
    cases h.1
  refine Prog.triple_ite (fun hsub => ?_) fun hsub => ?_
  · refine (op_triple hfails).bind fun _ => Prog.triple_pure fun t ht => ?_
    obtain ⟨rfl, hrecv⟩ := ht
    exact ⟨rfl, rfl, hrecv, hsub⟩
  · exact Prog.triple_throw fun _ _ => ⟨rfl, fun h => hsub h.2⟩

/-- The code of an action up to its message. -/
def EntryCall.receive (c : EntryCall P m_effect_id) : EffectCode Bytes := do
  if c.action = .Load then c.open_sockets
  c.send
  c.recv

theorem run_eq : c.run S ndebug = c.receive >>= EffectCode.finish P S ndebug m_effect_id c.action := by
  unfold EntryCall.run EntryCall.receive
  by_cases hload : c.action = .Load
  · simp only [if_pos hload, bind_assoc]
  · simp only [if_neg hload, bind_assoc]

/-- **A call takes its message, or throws `zmq::error_t`.** -/
theorem receive_triple (s₀ : EffectState) : Prog.Triple (· = s₀) c.receive
    (fun message s => s.suite_log = s₀.suite_log ∧ message = c.message ∧ c.Receives s₀)
    (fun f _ => f = .error_t ∧ ¬ c.Receives s₀) := by
  unfold EntryCall.receive EntryCall.Receives
  by_cases hload : c.action = .Load
  · simp only [if_pos hload]
    refine ((open_sockets_triple s₀.suite_log).conseq ?_ (fun _ _ h => h) ?_).bind fun _ =>
      Prog.triple_and_pure fun hops => ?_
    · rintro s rfl
      rfl
    · rintro f s ⟨rfl, hnot⟩
      exact ⟨rfl, fun h => hnot h.2.2⟩
    intro s hs
    obtain ⟨hpub, hsub, hlog⟩ := hs
    refine Prog.Triple.bind ((send_triple s).error_mono ?_) (fun _ =>
      Prog.triple_and_pure fun hsend => (recv_triple _ _).conseq (fun _ h => h) ?_ ?_) s rfl
    · rintro f t ⟨rfl, hnot⟩
      exact ⟨rfl, fun h => hnot ⟨h.1, hpub⟩⟩
    · rintro message t ⟨htlog, rfl, hrecv, -⟩
      exact ⟨htlog.trans hlog, rfl, hsend.1, hrecv, hops⟩
    · rintro f t ⟨rfl, hnot⟩
      exact ⟨rfl, fun h => hnot ⟨h.2.1, hsub⟩⟩
  · simp only [if_neg hload]
    refine Prog.Triple.bind ((send_triple s₀).error_mono ?_) (fun _ =>
      Prog.triple_and_pure fun hsend => (recv_triple _ _).conseq (fun _ h => h) ?_ ?_)
    · rintro f t ⟨rfl, hnot⟩
      exact ⟨rfl, fun h => hnot ⟨h.1, h.2.2.1⟩⟩
    · rintro message t ⟨htlog, rfl, hrecv, hsub⟩
      exact ⟨htlog, rfl, hsend.1, hrecv, hsend.2, hsub⟩
    · rintro f t ⟨rfl, hnot⟩
      exact ⟨rfl, fun h => hnot ⟨h.2.1, h.2.2.2⟩⟩

end receive

/-! ## What becomes of the message -/

theorem message_as_error {T : MessageType} {message : Bytes} {f : Fault} (h : P.message_as T message = .error f) :
    f = .runtime_error := by
  unfold Platform.message_as at h
  split at h
  · cases h
  · exact (Except.error.inj h).symm

theorem message_type_of_ok {T : MessageType} {message : Bytes} {table : T.Table}
    (h : P.message_as T message = .ok table) : P.message_type message = T := by
  unfold Platform.message_as at h
  by_contra hne
  rw [MessageEnvelope.message_as_ne hne] at h
  cases h

/-- The own assertion of `receive_message` holds. -/
theorem finish_own : EffectCode.finish P S ndebug m_effect_id c.action c.message =
    EffectCode.act P S ndebug c.action c.message := by
  rw [EffectCode.finish, EffectCode.receive_message_own c.own, Prog.lift_ok_bind]

theorem plan_fault {descriptor : ℕ} {action : ActionDescribeEnd} {f : Fault}
    (h : (action.plan ndebug descriptor).fault = some f) : f.fatal = true ∨ ∃ status, f = .suite status := by
  cases hs : action.status with
  | none =>
    rw [ActionDescribeEnd.plan, hs] at h
    cases h
    exact Or.inl rfl
  | some status =>
    by_cases hok : status.status = kOfxStatOK
    · rcases reply_fails hs hok f h with rfl | ⟨-, rfl⟩
      · exact Or.inl rfl
      · exact Or.inl rfl
    · rw [ActionDescribeEnd.plan, hs, need, if_neg hok] at h
      cases h
      exact Or.inr ⟨_, rfl⟩

/-- A fault that is fatal does not become a status. -/
theorem MainEntry_fatal {f : Fault} (hfatal : f.fatal = true) (status : OfxStatus) :
    MainEntry (.error f) ≠ .ok status := by
  intro h
  cases f with
  | runtime_error => cases h
  | error_t => cases hfatal
  | suite st => cases hfatal
  | process_error => cases h
  | assert => cases h
  | undefined => cases h
  | terminate => cases h

/-- `Describe`, from a reply on. -/
theorem replay_status {descriptor : ℕ} {action : ActionDescribeEnd} {log : SuiteLog} :
    (∃ status, MainEntry ((S.replayDescribe ndebug descriptor action).run log).2 = .ok status) ↔
      ∀ f, (action.plan ndebug descriptor).fault = some f → f.fatal = true →
        ¬ S.machine.Clear { log := log } (action.plan ndebug descriptor).steps := by
  rw [replayDescribe_run, Script.play, Machine.clear_iff]
  rcases hplay : S.machine.play { log := log } (action.plan ndebug descriptor).steps with ⟨w, e | f⟩
  · cases hfault : (action.plan ndebug descriptor).fault with
    | none => exact iff_of_true ⟨kOfxStatOK, rfl⟩ (by simp)
    | some f =>
      rcases plan_fault hfault with hfatal | ⟨status, rfl⟩
      · -- the script runs into the fault
        refine iff_of_false ?_ fun h => h f rfl hfatal rfl
        rintro ⟨status, h⟩
        exact MainEntry_fatal hfatal status h
      · refine iff_of_true ⟨status, rfl⟩ ?_
        rintro f ⟨⟩ hfatal
        cases hfatal
  · obtain ⟨status, rfl, -⟩ := play_error (congrArg Prod.snd hplay)
    exact iff_of_true ⟨status, rfl⟩ (by simp)

/-- The status of a reply to `Load` or `Unload`. -/
theorem remoteStatus_status {status : Option FbOfxStatus} :
    (∃ st, MainEntry (EffectCode.remoteStatus status) = .ok st) ↔ status ≠ none := by
  cases status with
  | none => exact iff_of_false (fun ⟨st, h⟩ => by cases h) (by simp)
  | some st => exact iff_of_true ⟨st.status, rfl⟩ (by simp)

/-- **What an action makes of its message.** -/
theorem act_contained (s : EffectState) :
    (∃ status, MainEntry ((EffectCode.act P S ndebug c.action c.message).run s).2 = .ok status ∧
      (P.message_type c.message ≠ c.action.reply → status ≠ kOfxStatOK)) ↔ c.Answered S ndebug s.suite_log := by
  -- on a message of the right type it is the first part that counts
  have hreply : ∀ {r : Except Fault OfxStatus} {T : MessageType}, P.message_type c.message = T →
      ((∃ status, MainEntry r = .ok status ∧ (P.message_type c.message ≠ T → status ≠ kOfxStatOK)) ↔
        ∃ status, MainEntry r = .ok status) :=
    fun htype => exists_congr fun status => and_iff_left fun hne => absurd htype hne
  unfold EntryCall.Answered
  cases haction : c.action with
  | Load =>
    rw [EffectCode.act]
    cases hmsg : P.message_as .ActionLoadEnd c.message with
    | error f =>
      obtain rfl := message_as_error hmsg
      exact iff_of_false (fun ⟨st, h, _⟩ => by cases h) (by simp)
    | ok action =>
      refine (hreply (message_type_of_ok hmsg)).trans ?_
      simpa using remoteStatus_status
  | Unload =>
    rw [EffectCode.act]
    cases hmsg : P.message_as .ActionUnloadEnd c.message with
    | error f =>
      obtain rfl := message_as_error hmsg
      exact iff_of_false (fun ⟨st, h, _⟩ => by cases h) (by simp)
    | ok action =>
      refine (hreply (message_type_of_ok hmsg)).trans ?_
      simpa using remoteStatus_status
  | Describe descriptor =>
    rw [EffectCode.act]
    cases hmsg : P.message_as .ActionDescribeEnd c.message with
    | error f =>
      obtain rfl := message_as_error hmsg
      exact iff_of_false (fun ⟨st, h, _⟩ => by cases h) (by simp)
    | ok action =>
      refine (hreply (message_type_of_ok hmsg)).trans ?_
      simpa using replay_status

/-! ## Calls and runs -/

/-- **One call** on an effect whose mutex is free. -/
theorem contained_iff (hfree : s.m_effect_lock = false) :
    Contained S ndebug s c ↔ (c.Receives s.effect → c.Answered S ndebug s.effect.suite_log) := by
  -- the call is over when its action is
  have hcall : Contained S ndebug s c ↔ ∃ status, MainEntry ((c.run S ndebug).run s.effect).2 = .ok status ∧
      (P.message_type c.message ≠ c.action.reply → status ≠ kOfxStatOK) := by
    unfold Contained entryStep
    rw [if_neg (by simp [hfree])]
    constructor
    · intro h
      obtain ⟨-, status, hended, hne⟩ := h _ rfl
      exact ⟨status, (List.cons.inj hended).1, hne⟩
    · rintro ⟨status, hstatus, hne⟩ t ht
      cases ht
      exact ⟨by rw [hstatus]; rfl, status, by rw [hstatus], hne⟩
  have hreceive := receive_triple (c := c) s.effect s.effect rfl
  rw [hcall, run_eq]
  rcases hrun : c.receive.run s.effect with ⟨e, f | message⟩
  · -- the call has no message: `MainEntry` catches the exception
    rw [hrun] at hreceive
    obtain ⟨rfl, hnot⟩ := hreceive
    rw [Prog.run_bind_error hrun]
    exact iff_of_true ⟨kOfxStatFailed, rfl, fun _ => by decide⟩ fun h => absurd h hnot
  · rw [hrun] at hreceive
    obtain ⟨hlog, rfl, hreceives⟩ := hreceive
    rw [Prog.run_bind_ok hrun, finish_own, act_contained, hlog]
    exact ⟨fun h _ => h, fun h => h hreceives⟩

/-- **What `MainEntry` lets out**, over every run of calls on a new effect.

Every call returns a status, non-OK on a message of another type than the reply to its
action, and leaves the mutex free, exactly when every message that is taken is the reply to
its action and lacks no field that the action comes to. -/
theorem entry_contains_iff (S : Suites) (ndebug : Bool) (calls : List (EntryCall P m_effect_id)) {u : EntryState}
    (hrun : exec (entryStep S ndebug) {} calls = some u) :
    AllSteps (entryStep S ndebug) (fun s c => c.Receives s.effect → c.Answered S ndebug s.effect.suite_log) {} calls ↔
      AllSteps (entryStep S ndebug) (Contained S ndebug) {} calls := by
  refine allSteps_congr (I := fun _ => True) (fun _ _ _ _ _ => trivial) (fun s c t _ hstep => ?_) trivial hrun
  have hfree : s.m_effect_lock = false := by
    by_contra hheld
    rw [entryStep, if_pos (by simpa using hheld)] at hstep
    cases hstep
  exact (contained_iff hfree).symm

/-- A call of effect 7 whose socket operations succeed, and the message it takes. -/
def callTaking (action : EffectAction) (T : MessageType) (message : T.Table) : EntryCall .reference 7 where
  action := action
  throws := fun _ => false
  message_thread_id := 1
  message := Platform.reference.make_message T message 7 1 0
  own := Platform.effect_id_make_message

/-- `Load`, and a `Describe` whose connection fails. -/
def failingCalls : List (EntryCall .reference 7) :=
  [callTaking .Load .ActionLoadEnd ⟨some ⟨kOfxStatOK⟩⟩,
   { callTaking (.Describe 0) .ActionDescribeEnd ⟨none, none, none⟩ with throws := fun o => o = .recv }]

/-- An exception of the socket becomes a status. -/
theorem entry_contains_failing : AllSteps (entryStep .obliging false) (Contained .obliging false) {} failingCalls := by
  have hrun : (exec (entryStep .obliging false) {} failingCalls).isSome = true := by decide +kernel
  have hiff := entry_contains_iff .obliging false failingCalls (Option.some_get hrun).symm
  refine hiff.1 ⟨fun _ => ?_, fun t _ => ⟨?_, ?_⟩⟩
  · exact ⟨⟨some ⟨kOfxStatOK⟩⟩, Platform.message_as_make_message, by simp⟩
  · rintro ⟨-, hrecv, -⟩
    cases hrecv
  · exact fun _ _ => trivial

/-- `Load` and then `Describe`, which takes one more reply to `Load`. -/
def lateCalls : List (EntryCall .reference 7) :=
  [callTaking .Load .ActionLoadEnd ⟨some ⟨kOfxStatOK⟩⟩, callTaking (.Describe 0) .ActionLoadEnd ⟨some ⟨kOfxStatOK⟩⟩]

/-- The exception of `message_as` leaves `MainEntry`. -/
theorem entry_lets_out : ∃ u : EntryState, exec (entryStep .obliging false) {} lateCalls = some u ∧
    u.ended = [.error .runtime_error, .ok kOfxStatOK] ∧
    ¬ AllSteps (entryStep .obliging false) (Contained .obliging false) {} lateCalls := by
  have hrun : (exec (entryStep .obliging false) {} lateCalls).isSome = true := by decide +kernel
  refine ⟨_, (Option.some_get hrun).symm, by rfl, ?_⟩
  rintro ⟨-, hsecond⟩
  obtain ⟨hcontained, -⟩ := hsecond _ rfl
  obtain ⟨action, hmsg, -⟩ := (contained_iff (by rfl)).1 hcontained ⟨rfl, rfl, rfl, rfl⟩
  have hother : Platform.reference.message_as .ActionDescribeEnd
        (callTaking (.Describe 0) .ActionLoadEnd ⟨some ⟨kOfxStatOK⟩⟩).message = .error .runtime_error :=
    Platform.message_as_of_ne (by decide)
  rw [hother] at hmsg
  cases hmsg

end MfxProxy
