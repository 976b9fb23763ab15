import MfxProxy.Lib.Exec
import MfxProxy.Spec.Effect
import MfxProxy.Spec.Reference
import MfxProxy.Proof.Describe

/-!
# Which request a reply is taken to answer

The replies of an effect arrive in the order of its requests, and an action takes the
first reply there is. A request that was given up before its reply came is still ahead of
the request of the next action.

* `PairingInv`: the thread ids of the requests that no reply has been taken for.
* `accepts_iff_actsOn`: a reply is accepted where the action runs on what it says.
* `accepts_own_undisturbed`: as long as no receive throws, an action acts on no reply but
  its own.
* `accepts_own_iff`: in every run it does so exactly when, whenever it acts on a reply, one
  request has no reply taken for it.
-/

namespace MfxProxy

open Lib

variable {τ : Type} {P : Platform} {S : Suites} {ndebug : Bool} {e : UInt32}

variable {s s' : EffectSession τ} {ev : EffectEvent τ} {evs : List (EffectEvent τ)}

/-! ## What an action should do -/

/-- The thread ids of the requests that no reply was taken for yet or lost, oldest first:
of those whose reply waits at the effect, and then of those not answered yet. -/
def EffectState.pending (P : Platform) (s : EffectState) : List UInt32 :=
  ((s.m_sub_socket.getD []) ++ s.unanswered).map P.message_thread_id

/-- The reply that an event makes an action act on, with the thread id of the action's own
request. A message of another type is taken, too, but `message_as` throws on it. -/
def EffectSession.accepts (P : Platform) (s : EffectSession τ) : EffectEvent τ → Option (UInt32 × Bytes)
  | .receive =>
    match s.m_effect_lock, s.takeMessage with
    | some (_, .receiving a message_thread_id), some (message, _) =>
      if (P.message_as a.reply message).isOk then some (message_thread_id, message) else none
    | _, _ => none
  | _ => none

/-- An action from its decoded reply on. -/
def EffectCode.goOn (S : Suites) (ndebug : Bool) : (a : EffectAction) → a.reply.Table → EffectCode OfxStatus
  | .Load, action => Prog.lift (remoteStatus action.status)
  | .Unload, action => do
    Prog.modify EffectState.close
    Prog.lift (remoteStatus action.status)
  | .Describe descriptor, action => do
    let s ← Prog.get
    let (log, result) := (S.replayDescribe ndebug descriptor action).run s.suite_log
    Prog.modify fun s => { s with suite_log := log }
    Prog.lift result

/-- The event takes the reply `m` off the socket, and the action whose request has the
thread id `id` goes on with what the reply says. -/
def ActsOn (P : Platform) (S : Suites) (ndebug : Bool) (m_effect_id : UInt32) (s : EffectSession τ)
    (ev : EffectEvent τ) (id : UInt32) (m : Bytes) : Prop :=
  ev = .receive ∧ ∃ t a action s', s.m_effect_lock = some (t, .receiving a id) ∧ s.takeMessage = some (m, s') ∧
    P.message_as a.reply m = .ok action ∧
    effectStep P S ndebug m_effect_id s ev = some (s'.run t (EffectCode.goOn S ndebug a action))

/-- **What an action should do**: act on no reply but the one to its own request. -/
def AcceptsOwn (P : Platform) (s : EffectSession τ) (ev : EffectEvent τ) : Prop :=
  ∀ r ∈ s.accepts P ev, P.message_thread_id r.2 = r.1

/-- Whenever an action acts on a reply, one request is pending. -/
def OnePending (P : Platform) (s : EffectSession τ) (ev : EffectEvent τ) : Prop :=
  ∀ _r ∈ s.accepts P ev, (s.effect.pending P).length = 1

instance : Decidable (AcceptsOwn P s ev) := inferInstanceAs (Decidable (∀ r ∈ s.accepts P ev, _))

instance : Decidable (OnePending P s ev) := inferInstanceAs (Decidable (∀ _r ∈ s.accepts P ev, _))

@[simp] theorem message_thread_id_request (a : EffectAction) (id : UInt32) :
    P.message_thread_id (a.request P e id) = id := by
  cases a <;> exact Platform.message_thread_id_make_message

/-! ## What a step can do -/

/-- The messages that wait at the effect. -/
def EffectState.waiting (s : EffectState) : List Bytes := s.m_sub_socket.getD []

/-- Both sockets are open, or both are closed. -/
def EffectState.Paired (s : EffectState) : Prop := s.m_pub_socket = s.m_sub_socket.isSome

/-- The mutex is free, or its holder is not waiting for a reply. -/
def EffectSession.NotReceiving (s : EffectSession τ) : Prop :=
  ∀ t a id, s.m_effect_lock ≠ some (t, .receiving a id)

/-- Code that leaves the sockets alone, or closes them. -/
structure Settles (s s' : EffectState) : Prop where
  unanswered : s'.unanswered = s.unanswered
  sockets : (s'.m_pub_socket = s.m_pub_socket ∧ s'.m_sub_socket = s.m_sub_socket) ∨
    (s'.m_pub_socket = false ∧ s'.m_sub_socket = none)

namespace Settles

variable {x y : EffectState}

theorem refl (x : EffectState) : Settles x x := ⟨rfl, Or.inl ⟨rfl, rfl⟩⟩

theorem paired (h : Settles x y) (hx : x.Paired) : y.Paired := by
  unfold EffectState.Paired at hx ⊢
  rcases h.sockets with ⟨hpub, hsub⟩ | ⟨hpub, hsub⟩
  · rw [hpub, hsub]
    exact hx
  · rw [hpub, hsub]
    rfl

theorem waiting (h : Settles x y) : y.waiting ⊆ x.waiting := by
  unfold EffectState.waiting
  rcases h.sockets with ⟨-, hsub⟩ | ⟨-, hsub⟩
  · rw [hsub]
    exact List.Subset.refl _
  · rw [hsub]
    exact List.nil_subset _

/-- No request becomes pending. -/
theorem pending (h : Settles x y) : (y.pending P).Sublist (x.pending P) := by
  unfold EffectState.pending
  apply List.Sublist.map
  rw [h.unanswered]
  apply List.Sublist.append_right
  rcases h.sockets with ⟨-, hsub⟩ | ⟨-, hsub⟩
  · rw [hsub]
  · rw [hsub]
    exact List.nil_sublist _

end Settles

/-- What an action does before it has its decoded reply is to throw, or nothing. -/
theorem act_eq (a : EffectAction) (message : Bytes) :
    EffectCode.act P S ndebug a message = Prog.lift (P.message_as a.reply message) >>= EffectCode.goOn S ndebug a := by
  cases a <;> rfl

theorem settles_goOn (a : EffectAction) (action : a.reply.Table) (x : EffectState) :
    Settles x ((EffectCode.goOn S ndebug a action).run x).1 := by
  cases a with
  | Load => exact Settles.refl x
  | Unload => exact ⟨rfl, Or.inr ⟨rfl, rfl⟩⟩
  | Describe descriptor => exact ⟨rfl, Or.inl ⟨rfl, rfl⟩⟩

theorem settles_finish (P : Platform) (S : Suites) (ndebug : Bool) (e : UInt32) (a : EffectAction) (message : Bytes)
    (x : EffectState) :
    Settles x ((EffectCode.finish P S ndebug e a message).run x).1 := by
  unfold EffectCode.finish
  cases EffectCode.receive_message P ndebug e message with
  | error f => exact Settles.refl x
  | ok message =>
    rw [Prog.lift_ok_bind, act_eq]
    cases P.message_as a.reply message with
    | error f => exact Settles.refl x
    | ok action =>
      rw [Prog.lift_ok_bind]
      exact settles_goOn a action x

/-- A step that sends nothing: no request becomes pending, and no action waits after it. -/
structure Quits (P : Platform) (s : EffectSession τ) (ev : EffectEvent τ) (s' : EffectSession τ) : Prop where
  paired : s.effect.Paired → s'.effect.Paired
  waiting : s'.effect.waiting ⊆ s.effect.waiting
  pending : (s'.effect.pending P).Sublist (s.effect.pending P)
  taken : s.NotReceiving ∨ ev = .receiveError ∨ (s'.effect.pending P).length < (s.effect.pending P).length
  generated : ∀ id ∈ s.generated, id ∈ s'.generated
  notReceiving : s'.NotReceiving

/-- The step in which an action sends its request. -/
structure Sends (P : Platform) (s s' : EffectSession τ) (id : UInt32) : Prop where
  opened : s.effect.m_pub_socket = true
  sockets : s'.effect.m_pub_socket = s.effect.m_pub_socket ∧ s'.effect.m_sub_socket = s.effect.m_sub_socket
  pending : s'.effect.pending P = s.effect.pending P ++ [id]
  fresh : id ∉ s.generated
  generated : s'.generated = id :: s.generated
  receiving : ∃ t a, s.m_effect_lock = some (t, .requesting a) ∧ s'.m_effect_lock = some (t, .receiving a id)

namespace Sends

variable {id : UInt32}

theorem paired (h : Sends P s s' id) (hs : s.effect.Paired) : s'.effect.Paired := by
  unfold EffectState.Paired
  rw [h.sockets.1, h.sockets.2]
  exact hs

theorem isSome (h : Sends P s s' id) (hs : s.effect.Paired) : s'.effect.m_sub_socket.isSome = true := by
  rw [h.sockets.2, ← hs, h.opened]

end Sends

/-- The step in which the remote side answers. -/
structure Answers (P : Platform) (e : UInt32) (s s' : EffectSession τ) : Prop where
  lock : s'.m_effect_lock = s.m_effect_lock
  sockets : s'.effect.m_pub_socket = s.effect.m_pub_socket ∧
    s'.effect.m_sub_socket.isSome = s.effect.m_sub_socket.isSome
  waiting : ∀ m ∈ s'.effect.waiting, m ∈ s.effect.waiting ∨ P.effect_id m = .ok e
  pending : (s'.effect.pending P).Sublist (s.effect.pending P)
  kept : s.effect.m_sub_socket.isSome = true → s'.effect.pending P = s.effect.pending P
  generated : s'.generated = s.generated

theorem Answers.paired (h : Answers P e s s') (hs : s.effect.Paired) : s'.effect.Paired := by
  unfold EffectState.Paired
  rw [h.sockets.1, h.sockets.2]
  exact hs

theorem notReceiving_of {t : τ} {phase : EntryPhase} (hlock : s.m_effect_lock = some (t, phase))
    (hphase : ∀ a id, phase ≠ .receiving a id) : s.NotReceiving := by
  intro t' a id h
  rw [hlock] at h
  cases h
  exact hphase a id rfl

theorem notReceiving_run (t : τ) (code : EffectCode OfxStatus) : (s.run t code).NotReceiving := by
  intro t' a id h
  cases h

theorem takeMessage_eq_some {m : Bytes} (h : s.takeMessage = some (m, s')) : ∃ ms,
    s.effect.m_sub_socket = some (m :: ms) ∧ s' = { s with effect := { s.effect with m_sub_socket := some ms } } := by
  unfold EffectSession.takeMessage at h
  split at h
  · rename_i message messages hsub
    obtain ⟨rfl, rfl⟩ := Prod.mk.inj (Option.some.inj h)
    exact ⟨messages, hsub, rfl⟩
  · cases h

/-- The ways a step goes. -/
theorem effectStep_cases (h : effectStep P S ndebug e s ev = some s') :
    Quits P s ev s' ∨ (∃ id, Sends P s s' id) ∨ Answers P e s s' := by
  cases ev with
  | enter t a =>
    simp only [effectStep] at h
    split at h <;> cases h
    rename_i hlock
    have hnot : s.NotReceiving := fun t' a' id h => by rw [hlock] at h; cases h
    refine Or.inl ⟨fun h => h, List.Subset.refl _, List.Sublist.refl _, Or.inl hnot, fun _ h => h, ?_⟩
    intro t' a' id h
    cases a <;> cases h
  | connect =>
    simp only [effectStep] at h
    split at h <;> cases h
    rename_i hlock
    have hnot := notReceiving_of hlock nofun
    refine Or.inl ⟨fun _ => rfl, List.nil_subset _, ?_, Or.inl hnot, fun _ h => h, fun t' a' id h => by cases h⟩
    exact List.Sublist.map _ (List.Sublist.append_right (List.nil_sublist _) _)
  | request id =>
    simp only [effectStep] at h
    split at h <;> try cases h
    rename_i t a hlock
    have hnot := notReceiving_of hlock nofun
    rw [Option.ite_none_left_eq_some] at h
    obtain ⟨hfresh, h⟩ := h
    obtain rfl := Option.some.inj h
    by_cases hpub : s.effect.m_pub_socket = true
    · -- the request goes out
      refine Or.inr (Or.inl ⟨id, hpub, ?_, ?_, hfresh, ?_, t, a, hlock, ?_⟩)
      all_goals simp [EffectSession.sendRequest, EffectCode.send_message, hpub, EffectSession.goto]
      simp [EffectState.pending]
    · -- the sockets are closed
      have hsend : s.sendRequest P e t a id =
          { s with generated := id :: s.generated }.run t (Prog.throw .error_t) := by
        simp [EffectSession.sendRequest, EffectCode.send_message, hpub]
      rw [hsend]
      exact Or.inl ⟨fun h => h, List.Subset.refl _, List.Sublist.refl _, Or.inl hnot,
        fun _ h => List.mem_cons_of_mem _ h, notReceiving_run t _⟩
  | answer T message message_id =>
    simp only [effectStep] at h
    split at h
    · rename_i request requests hreq
      rw [Option.ite_none_right_eq_some] at h
      obtain ⟨-, h⟩ := h
      obtain rfl := Option.some.inj h
      -- the reply takes the place of its request, or is lost at a closed socket
      refine Or.inr (Or.inr ⟨rfl, ⟨rfl, ?_⟩, fun m hm => ?_, ?_, ?_, rfl⟩)
      · simp [EffectState.deliver]
      · cases hsub : s.effect.m_sub_socket with
        | none => simp [EffectState.waiting, EffectState.deliver, hsub] at hm
        | some ms =>
          simp only [EffectState.waiting, EffectState.deliver, hsub, Option.map_some, Option.getD_some,
            List.mem_append, List.mem_singleton] at hm ⊢
          rcases hm with hm | rfl
          · exact Or.inl hm
          · exact Or.inr Platform.effect_id_make_message
      all_goals cases hsub : s.effect.m_sub_socket <;>
        simp [EffectState.deliver, EffectState.pending, hsub, hreq]
    · cases h
  | receive =>
    simp only [effectStep] at h
    split at h
    · rename_i t a id hlock
      obtain ⟨⟨m, s₁⟩, htake, rfl⟩ := Option.map_eq_some_iff.1 h
      obtain ⟨ms, hsub, rfl⟩ := takeMessage_eq_some htake
      -- the oldest reply is taken, and then the action sends nothing
      have hsettles := settles_finish P S ndebug e a m { s.effect with m_sub_socket := some ms }
      have hpending : s.effect.pending P =
          P.message_thread_id m :: EffectState.pending P { s.effect with m_sub_socket := some ms } := by
        simp [EffectState.pending, hsub]
      refine Or.inl ⟨fun hpaired => hsettles.paired ?_, fun m' hm' => ?_, ?_, Or.inr (Or.inr ?_), fun _ h => h,
        notReceiving_run t _⟩
      · unfold EffectState.Paired at hpaired
        rw [hsub] at hpaired
        exact hpaired
      · have hrest : m' ∈ ms := hsettles.waiting hm'
        rw [EffectState.waiting, hsub]
        exact List.mem_cons_of_mem m hrest
      · rw [hpending]
        exact hsettles.pending.trans (List.sublist_cons_self _ _)
      · rw [hpending]
        exact Nat.lt_succ_of_le hsettles.pending.length_le
    · cases h
  | receiveError =>
    simp only [effectStep] at h
    split at h <;> cases h
    exact Or.inl ⟨fun h => h, List.Subset.refl _, List.Sublist.refl _, Or.inr (Or.inl rfl), fun _ h => h,
      notReceiving_run _ _⟩
  | leave =>
    have hends : ∀ {t result}, s.m_effect_lock = some (t, .leaving result) →
        Quits P s .leave { s with m_effect_lock := none, ended := (t, result) :: s.ended } := by
      intro t result hlock
      have hnot := notReceiving_of hlock nofun
      exact ⟨fun h => h, List.Subset.refl _, List.Sublist.refl _, Or.inl hnot, fun _ h => h, nofun⟩
    simp only [effectStep] at h
    split at h
    · rename_i t status hlock
      cases h
      exact Or.inl (hends hlock)
    · rename_i t f hlock
      rw [Option.ite_none_left_eq_some] at h
      obtain ⟨-, h⟩ := h
      cases h
      exact Or.inl (hends hlock)
    · cases h

/-! ## The invariant -/

/-- The requests that are pending have different thread ids, all of them generated, and
while an action waits for its reply its own request is the last of them. -/
structure PairingInv (P : Platform) (s : EffectSession τ) : Prop where
  paired : s.effect.Paired
  nodup : (s.effect.pending P).Nodup
  generated : ∀ id ∈ s.effect.pending P, id ∈ s.generated
  own : ∀ t a id, s.m_effect_lock = some (t, .receiving a id) →
    s.effect.m_sub_socket.isSome = true ∧ (s.effect.pending P).getLast? = some id

theorem pairingInv_init : PairingInv P ({} : EffectSession τ) where
  paired := rfl
  nodup := List.nodup_nil
  generated _ h := by cases h
  own _ _ _ h := by cases h

theorem pairingInv_step (hs : PairingInv P s) (h : effectStep P S ndebug e s ev = some s') : PairingInv P s' := by
  rcases effectStep_cases h with hquits | ⟨id, hsends⟩ | hanswers
  · exact {
      paired := hquits.paired hs.paired
      nodup := hquits.pending.nodup hs.nodup
      generated := fun id hid => hquits.generated id (hs.generated id (hquits.pending.subset hid))
      own := fun t a id hlock => (hquits.notReceiving t a id hlock).elim }
  · obtain ⟨t, a, hlock, hlock'⟩ := hsends.receiving
    -- the id is fresh, and every pending one was generated
    have hnew : id ∉ s.effect.pending P := fun hid => hsends.fresh (hs.generated id hid)
    refine ⟨hsends.paired hs.paired, ?_, ?_, ?_⟩
    · rw [hsends.pending]
      exact hs.nodup.append (List.nodup_singleton id) (by simpa using hnew)
    · intro id' hid'
      rw [hsends.pending, List.mem_append, List.mem_singleton] at hid'
      rw [hsends.generated, List.mem_cons]
      exact hid'.symm.imp_right (hs.generated id')
    · intro t' a' id' h'
      rw [hlock'] at h'
      cases h'
      refine ⟨hsends.isSome hs.paired, ?_⟩
      rw [hsends.pending, List.getLast?_concat]
  · refine ⟨hanswers.paired hs.paired, ?_, ?_, ?_⟩
    · exact hanswers.pending.nodup hs.nodup
    · intro id hid
      rw [hanswers.generated]
      exact hs.generated id (hanswers.pending.subset hid)
    · intro t a id hlock
      rw [hanswers.lock] at hlock
      obtain ⟨hopen, hlast⟩ := hs.own t a id hlock
      refine ⟨by rw [hanswers.sockets.2, hopen], ?_⟩
      rw [hanswers.kept hopen, hlast]

/-! ## The replies that are acted on -/

/-- In a list without repetitions the first element is the last one exactly when there is
no other. -/
theorem length_eq_one_iff_of_nodup {l : List UInt32} {a b : UInt32} (hl : l.Nodup) (ha : l.head? = some a)
    (hb : l.getLast? = some b) : l.length = 1 ↔ a = b := by
  obtain ⟨l', rfl⟩ := List.getLast?_eq_some_iff.1 hb
  cases l' with
  | nil =>
    obtain rfl : b = a := Option.some.inj ha
    exact ⟨fun _ => rfl, fun _ => rfl⟩
  | cons c l' =>
    obtain rfl : c = a := Option.some.inj ha
    constructor
    · intro h
      simp at h
    · rintro rfl
      simp at hl

theorem accepts_iff {id : UInt32} {m : Bytes} :
    s.accepts P ev = some (id, m) ↔ ev = .receive ∧ ∃ t a action s',
      s.m_effect_lock = some (t, .receiving a id) ∧ s.takeMessage = some (m, s') ∧
        P.message_as a.reply m = .ok action := by
  constructor
  · intro h
    unfold EffectSession.accepts at h
    split at h
    · split at h
      · rename_i t a id' m' s' hlock htake
        rw [Option.ite_none_right_eq_some] at h
        obtain ⟨hok, h⟩ := h
        obtain ⟨rfl, rfl⟩ := Prod.mk.inj (Option.some.inj h)
        cases hmsg : P.message_as a.reply m' with
        | error f =>
          rw [hmsg] at hok
          cases hok
        | ok action => exact ⟨rfl, t, a, action, s', hlock, htake, hmsg⟩
      · cases h
    · cases h
  · rintro ⟨rfl, t, a, action, s', hlock, htake, hmsg⟩
    simp [EffectSession.accepts, hlock, htake, hmsg, Except.isOk, Except.toBool]

theorem accepts_eq_some {id : UInt32} {m : Bytes} (h : s.accepts P ev = some (id, m)) :
    (∃ t a, s.m_effect_lock = some (t, .receiving a id)) ∧ ∃ ms, s.effect.m_sub_socket = some (m :: ms) := by
  obtain ⟨-, t, a, action, s', hlock, htake, -⟩ := accepts_iff.1 h
  obtain ⟨ms, hsub, -⟩ := takeMessage_eq_some htake
  exact ⟨⟨t, a, hlock⟩, ms, hsub⟩

/-- Every message that waits at the effect is addressed to it. -/
def EffectSession.Addressed (P : Platform) (e : UInt32) (s : EffectSession τ) : Prop :=
  ∀ m ∈ s.effect.waiting, P.effect_id m = .ok e

theorem addressed_init : EffectSession.Addressed P e ({} : EffectSession τ) := by
  intro m hm
  cases hm

theorem addressed_step (hs : s.Addressed P e) (h : effectStep P S ndebug e s ev = some s') : s'.Addressed P e := by
  intro m hm
  rcases effectStep_cases h with hquits | ⟨id, hsends⟩ | hanswers
  · exact hs m (hquits.waiting hm)
  · unfold EffectState.waiting at hm
    rw [hsends.sockets.2] at hm
    exact hs m hm
  · rcases hanswers.waiting m hm with hm | hm
    · exact hs m hm
    · exact hm

/-- **A reply is accepted exactly where the action runs on what it says.** The assertion of
`receive_message` holds of what waits at the effect. -/
theorem accepts_iff_actsOn (hs : s.Addressed P e) {id : UInt32} {m : Bytes} :
    s.accepts P ev = some (id, m) ↔ ActsOn P S ndebug e s ev id m := by
  rw [accepts_iff]
  constructor
  · rintro ⟨rfl, t, a, action, s', hlock, htake, hmsg⟩
    refine ⟨rfl, t, a, action, s', hlock, htake, hmsg, ?_⟩
    obtain ⟨ms, hsub, -⟩ := takeMessage_eq_some htake
    have hown : P.effect_id m = .ok e := by
      apply hs
      rw [EffectState.waiting, hsub]
      exact List.mem_cons_self
    have hfinish : EffectCode.finish P S ndebug e a m = EffectCode.goOn S ndebug a action := by
      rw [EffectCode.finish, EffectCode.receive_message_own hown, Prog.lift_ok_bind, act_eq, hmsg, Prog.lift_ok_bind]
    simp only [effectStep, hlock, htake, Option.map_some, hfinish]
  · rintro ⟨rfl, t, a, action, s', hlock, htake, hmsg, -⟩
    exact ⟨rfl, t, a, action, s', hlock, htake, hmsg⟩

theorem onePending_iff (hs : PairingInv P s) : OnePending P s ev ↔ AcceptsOwn P s ev := by
  apply forall₂_congr
  rintro ⟨id, m⟩ hr
  obtain ⟨⟨t, a, hlock⟩, ms, hsub⟩ := accepts_eq_some hr
  -- the first pending request is the one answered, the last the action's own
  refine length_eq_one_iff_of_nodup hs.nodup ?_ (hs.own t a id hlock).2
  simp [EffectState.pending, hsub]

/-! ## Runs in which no receive throws -/

/-- Only the request of the action that waits for its reply is pending. -/
structure Undisturbed (P : Platform) (s : EffectSession τ) : Prop where
  paired : s.effect.Paired
  idle : s.NotReceiving → s.effect.pending P = []
  own : ∀ t a id, s.m_effect_lock = some (t, .receiving a id) →
    s.effect.m_sub_socket.isSome = true ∧ s.effect.pending P = [id]

theorem undisturbed_init : Undisturbed P ({} : EffectSession τ) where
  paired := rfl
  idle _ := rfl
  own _ _ _ h := by cases h

theorem undisturbed_step (hs : Undisturbed P s) (hev : ev ≠ .receiveError)
    (h : effectStep P S ndebug e s ev = some s') : Undisturbed P s' := by
  rcases effectStep_cases h with hquits | ⟨id, hsends⟩ | hanswers
  · refine ⟨hquits.paired hs.paired, fun _ => ?_, fun t a id hlock => (hquits.notReceiving t a id hlock).elim⟩
    by_cases hnot : s.NotReceiving
    · have hsub := hquits.pending
      rw [hs.idle hnot] at hsub
      exact List.sublist_nil.1 hsub
    · -- the reply that the action waited for was the only one
      have hlt := (hquits.taken.resolve_left hnot).resolve_left hev
      simp only [EffectSession.NotReceiving, not_forall, not_not] at hnot
      obtain ⟨t, a, id, hlock⟩ := hnot
      rw [(hs.own t a id hlock).2, List.length_singleton, Nat.lt_one_iff] at hlt
      exact List.length_eq_zero_iff.1 hlt
  · obtain ⟨t, a, hlock, hlock'⟩ := hsends.receiving
    have hnot := notReceiving_of hlock nofun
    refine ⟨hsends.paired hs.paired, fun hnot' => (hnot' t a id hlock').elim, fun t' a' id' h' => ?_⟩
    rw [hlock'] at h'
    cases h'
    refine ⟨hsends.isSome hs.paired, ?_⟩
    rw [hsends.pending, hs.idle hnot, List.nil_append]
  · refine ⟨hanswers.paired hs.paired, fun hnot => ?_, fun t a id hlock => ?_⟩
    · have hsub := hanswers.pending
      rw [hs.idle fun t a id hlock => hnot t a id (hanswers.lock.trans hlock)] at hsub
      exact List.sublist_nil.1 hsub
    · rw [hanswers.lock] at hlock
      obtain ⟨hopen, hown⟩ := hs.own t a id hlock
      exact ⟨by rw [hanswers.sockets.2, hopen], by rw [hanswers.kept hopen, hown]⟩

/-- As long as no receive throws, an action acts on no reply but its own. -/
theorem accepts_own_undisturbed {u : EffectSession τ} (hev : ∀ ev ∈ evs, ev ≠ .receiveError)
    (hu : exec (effectStep P S ndebug e) {} evs = some u) :
    AllSteps (effectStep P S ndebug e) (AcceptsOwn P) {} evs := by
  have hcond := (allSteps_label (P := fun ev : EffectEvent τ => ev ≠ .receiveError) hu).2 hev
  refine allSteps_of_inv (I := Undisturbed P) (fun s ev t hs hev h => undisturbed_step hs hev h) ?_
    undisturbed_init hcond
  rintro s ev hs - ⟨id, m⟩ hr
  obtain ⟨⟨t, a, hlock⟩, ms, hsub⟩ := accepts_eq_some hr
  have hown := (hs.own t a id hlock).2
  simp only [EffectState.pending, hsub, Option.getD_some, List.cons_append, List.map_cons, List.cons.injEq] at hown
  exact hown.1

/-! ## Whole runs -/

/-- **Whose reply an action acts on.** In every run of an effect with its callers and the
remote side, every reply that an action acts on carries the thread id of the action's own
request exactly when, whenever an action acts on a reply, one request is pending: no
earlier one whose reply was neither taken nor lost. So it is in particular as long as no
receive throws. To act on a reply is to go on with what it says. -/
theorem accepts_own_iff (P : Platform) (S : Suites) (ndebug : Bool) (m_effect_id : UInt32)
    {u : EffectSession τ} (hu : exec (effectStep P S ndebug m_effect_id) {} evs = some u) :
    (AllSteps (effectStep P S ndebug m_effect_id) (OnePending P) {} evs ↔
      AllSteps (effectStep P S ndebug m_effect_id) (AcceptsOwn P) {} evs) ∧
    ((∀ ev ∈ evs, ev ≠ .receiveError) → AllSteps (effectStep P S ndebug m_effect_id) (AcceptsOwn P) {} evs) ∧
    AllSteps (effectStep P S ndebug m_effect_id)
      (fun s ev => ∀ id m, s.accepts P ev = some (id, m) ↔ ActsOn P S ndebug m_effect_id s ev id m) {} evs := by
  refine ⟨?_, ?_, ?_⟩
  · exact allSteps_congr (I := PairingInv P) (fun _ _ _ hs h => pairingInv_step hs h)
      (fun _ _ _ hs _ => onePending_iff hs) pairingInv_init hu
  · intro hev
    exact accepts_own_undisturbed hev hu
  · refine allSteps_of_inv (I := EffectSession.Addressed P m_effect_id) (C := fun _ _ => True)
      (fun _ _ _ hs _ h => addressed_step hs h) ?_ addressed_init (allSteps_of_forall fun _ _ => trivial)
    intro s ev hs _ id m
    exact accepts_iff_actsOn hs

/-! ## Two runs with a receive that throws -/

/-- `Load` is given up because its receive throws, and called again after its reply came. -/
def reloadRun : List (EffectEvent ℕ) :=
  [.enter 0 .Load, .connect, .request 7, .receiveError, .leave, .answer .ActionLoadEnd ⟨some ⟨kOfxStatOK⟩⟩ 0,
    .enter 0 .Load, .connect, .request 8, .answer .ActionLoadEnd ⟨some ⟨kOfxStatOK⟩⟩ 0, .receive, .leave]

/-- The reply to the first request is lost with the socket at which it waited. -/
theorem accepts_own_reload :
    AllSteps (effectStep .reference .obliging false 3) (AcceptsOwn .reference) {} reloadRun := by
  have hrun : (exec (effectStep .reference .obliging false 3) {} reloadRun).isSome = true := by decide +kernel
  exact (accepts_own_iff .reference .obliging false 3 (Option.some_get hrun).symm).1.1 (by decide +kernel)

/-- `Describe` is given up because its receive throws, and called again after its reply
came. -/
def staleRun : List (EffectEvent ℕ) :=
  [.enter 0 .Load, .connect, .request 7, .answer .ActionLoadEnd ⟨some ⟨kOfxStatOK⟩⟩ 0, .receive, .leave,
    .enter 1 (.Describe 0), .request 8, .receiveError, .leave,
    .answer .ActionDescribeEnd ⟨some ⟨kOfxStatOK⟩, some [], some []⟩ 0,
    .enter 2 (.Describe 0), .request 9, .receive, .leave,
    .answer .ActionDescribeEnd ⟨some ⟨kOfxStatOK⟩, some [], some []⟩ 0]

/-- The second call acts on the reply to the first one, and returns OK. -/
theorem accepts_stale_reply : ∃ u : EffectSession ℕ,
    exec (effectStep .reference .obliging false 3) {} staleRun = some u ∧
    u.ended = [(2, .ok kOfxStatOK), (1, .ok kOfxStatFailed), (0, .ok kOfxStatOK)] ∧
    ¬ AllSteps (effectStep .reference .obliging false 3) (AcceptsOwn .reference) {} staleRun := by
  have hrun : (exec (effectStep .reference .obliging false 3) {} staleRun).isSome = true := by decide +kernel
  exact ⟨_, (Option.some_get hrun).symm, by rfl, by decide +kernel⟩

end MfxProxy
