import MfxProxy.Proof.Catalogue
import MfxProxy.Proof.Refinement

/-!
# What becomes of the messages

* `brokers_run`: the only ways the two broker threads end.
* `underway_step`, `replies_step`: one event loses, repeats and reorders no message.
* `delivery`: nor does a run; and while no socket call of a broker has thrown, the brokers
  can bring all messages to their ends.
-/

namespace MfxProxy

open Lib

variable {τ : Type} {P : Platform} {S : Suites} {ndebug : Bool} {H : HostProcess} {e : UInt32}

/-! ## How the brokers end -/

theorem receiveDefinition_incomplete {library : EffectLibrary}
    (h : ¬ ∀ x ∈ library.effects, x.effectIdentifier ≠ none) :
    receiveDefinition P (library.firstMessage P) = .error .undefined := by
  have hnot : ¬ ∀ p ∈ library.effects.mapIdx writePlugin, p.identifier ≠ none := by
    intro hall
    apply h
    intro x hx hnone
    obtain ⟨i, hi, rfl⟩ := List.getElem_of_mem hx
    apply hall (writePlugin i library.effects[i])
    · rw [List.mem_mapIdx]
      exact ⟨i, hi, rfl⟩
    · rw [writePlugin, hnone]
      rfl
  have hplugins : library.remoteHostStarted.plugins = some (library.effects.mapIdx writePlugin) := rfl
  rw [receiveDefinition, EffectLibrary.firstMessage, Platform.message_as_make_message]
  show readDefinition library.remoteHostStarted = _
  rw [readDefinition_eq hplugins, if_neg hnot]

/-- The plugin broker reads the first message of a library if all its effects have an identifier. -/
theorem complete_of_ok {library : EffectLibrary} {d : BrokerPluginBundleDefinition}
    (h : receiveDefinition P (library.firstMessage P) = .ok d) :
    (∀ x ∈ library.effects, x.effectIdentifier ≠ none) ∧ d = library.definition := by
  by_cases hids : ∀ x ∈ library.effects, x.effectIdentifier ≠ none
  · rw [receiveDefinition_firstMessage hids] at h
    exact ⟨hids, (Except.ok.inj h).symm⟩
  · rw [receiveDefinition_incomplete hids] at h
    cases h

theorem incomplete_of_error {library : EffectLibrary} {f : Fault}
    (h : receiveDefinition P (library.firstMessage P) = .error f) :
    (¬ ∀ x ∈ library.effects, x.effectIdentifier ≠ none) ∧ f = .undefined := by
  by_cases hids : ∀ x ∈ library.effects, x.effectIdentifier ≠ none
  · rw [receiveDefinition_firstMessage hids] at h
    cases h
  · rw [receiveDefinition_incomplete hids] at h
    exact ⟨hids, (Except.error.inj h).symm⟩

namespace System

variable {s s' : System τ} {ev : SystemEvent τ}

/-- How the broker's thread of a process has ended, if it has. -/
def stopped (s : System τ) (p : Process) : Option Fault :=
  if p ∈ s.terminated then some .terminate
  else
    match (s.broker p).phase with
    | .ended f => some f
    | _ => none

/-- Where a broker's thread is changes only in its own process. -/
theorem phase_of_ne (hs : s.Linked P ndebug H) (h : systemStep P S ndebug H s ev = some s') {p : Process}
    (hp : p ≠ ev.process) : (s'.broker p).phase = (s.broker p).phase := by
  cases p with
  | plugin =>
    cases moves_of hs h with
    | sendFirst hphase =>
      show (s.sendFirst P ndebug H).plugin.phase = _
      unfold sendFirst
      cases H.m_ofx_library <;> rfl
    | hostWait ht => rfl
    | take ht => rfl
    | reply hserves hfind htype => rfl
    | throws hrun => rfl
    | _ => exact (hp rfl).elim
  | host =>
    cases moves_of hs h with
    | sendFirst hphase => exact (hp rfl).elim
    | hostWait ht => exact (hp rfl).elim
    | take ht => exact (hp rfl).elim
    | reply hserves hfind htype => exact (hp rfl).elim
    | _ => rfl

/-- What has happened to the broker threads. -/
structure History (evs : List (SystemEvent τ)) (u : System τ) : Prop where
  terminated : ∀ p, p ∈ u.terminated ↔ .throws p ∈ evs
  running : ∀ p ∈ u.terminated, ∀ f, (u.broker p).phase ≠ .ended f
  sent : .sendFirst ∈ evs ↔ u.host.phase ≠ .handshake
  received : .receiveFirst ∈ evs ↔ u.plugin.phase ≠ .handshake

theorem history_init : History ([] : List (SystemEvent τ)) {} where
  terminated := by simp
  running := by simp
  sent := by simp
  received := by simp

theorem history_step {past : List (SystemEvent τ)} (hs : s.Linked P ndebug H) (hpast : s.History past)
    (h : systemStep P S ndebug H s ev = some s') : s'.History (past ++ [ev]) := by
  obtain ⟨halive, -⟩ := systemStep_eq_some.1 h
  have hrunning : s'.terminated = s.terminated → ∀ p ∈ s'.terminated, ∀ f, (s'.broker p).phase ≠ .ended f := by
    intro hsame p hp
    rw [hsame] at hp
    rw [phase_of_ne hs h fun heq => halive (heq ▸ hp)]
    exact hpast.running p hp
  -- the brokers' phases when the event is none of the two first messages
  have hquiet : s'.terminated = s.terminated → (∀ p, ev ≠ .throws p) → ev ≠ .sendFirst → ev ≠ .receiveFirst →
      (s'.host.phase ≠ .handshake ↔ s.host.phase ≠ .handshake) →
      (s'.plugin.phase ≠ .handshake ↔ s.plugin.phase ≠ .handshake) → s'.History (past ++ [ev]) := by
    intro hsame hthrows hsend hreceive hhost hplugin
    refine ⟨fun p => ?_, hrunning hsame, ?_, ?_⟩
    · rw [hsame, hpast.terminated p, List.mem_append, List.mem_singleton, or_iff_left (hthrows p).symm]
    · rw [hhost, ← hpast.sent, List.mem_append, List.mem_singleton, or_iff_left hsend.symm]
    · rw [hplugin, ← hpast.received, List.mem_append, List.mem_singleton, or_iff_left hreceive.symm]
  have hloops : ∀ {p q : BrokerPhase}, p.Looping → q.Looping → (p ≠ .handshake ↔ q ≠ .handshake) :=
    fun hp hq => iff_of_true hp.1 hq.1
  cases moves_of hs h with
  | effect hdef hev hx => exact hquiet rfl nofun nofun nofun Iff.rfl Iff.rfl
  | arrive hms => exact hquiet rfl nofun nofun nofun Iff.rfl Iff.rfl
  | pluginWait ht => exact hquiet rfl nofun nofun nofun Iff.rfl (hloops ht.after ht.before)
  | publish ht => exact hquiet rfl nofun nofun nofun Iff.rfl (hloops ht.after ht.before)
  | pass ht => exact hquiet rfl nofun nofun nofun Iff.rfl (hloops ht.after ht.before)
  | hostWait ht => exact hquiet rfl nofun nofun nofun (hloops ht.after ht.before) Iff.rfl
  | take ht => exact hquiet rfl nofun nofun nofun (hloops ht.after ht.before) Iff.rfl
  | reply hserves hfind htype => exact hquiet rfl nofun nofun nofun Iff.rfl Iff.rfl
  | readFirst hphase hrecv hread =>
    refine ⟨fun p => ?_, hrunning rfl, ?_, by simp⟩
    · show p ∈ s.terminated ↔ _
      simp [hpast.terminated p]
    · show _ ↔ s.host.phase ≠ .handshake
      simp [← hpast.sent]
  | failFirst hphase hrecv hread =>
    refine ⟨fun p => ?_, hrunning rfl, ?_, by simp⟩
    · show p ∈ s.terminated ↔ _
      simp [hpast.terminated p]
    · show _ ↔ s.host.phase ≠ .handshake
      simp [← hpast.sent]
  | sendFirst hphase =>
    have hkeeps : (s.sendFirst P ndebug H).terminated = s.terminated ∧
        (s.sendFirst P ndebug H).plugin.phase = s.plugin.phase ∧
        (s.sendFirst P ndebug H).host.phase ≠ .handshake := by
      unfold sendFirst
      cases H.m_ofx_library with
      | none => exact ⟨rfl, rfl, nofun⟩
      | some library => exact ⟨rfl, rfl, nofun⟩
    obtain ⟨hterminated, hplugin, hhost⟩ := hkeeps
    refine ⟨fun p => ?_, hrunning hterminated, iff_of_true (by simp) hhost, ?_⟩
    · rw [hterminated]
      simp [hpast.terminated p]
    · rw [hplugin]
      simp [← hpast.received]
  | @throws p hrun =>
    refine ⟨fun q => ?_, fun q hq => ?_, ?_, ?_⟩
    · show q ∈ p :: s.terminated ↔ _
      rw [List.mem_cons, hpast.terminated q, List.mem_append, List.mem_singleton, SystemEvent.throws.injEq, or_comm]
    · have hq : q ∈ p :: s.terminated := hq
      show ∀ f, (s.broker q).phase ≠ .ended f
      rcases List.mem_cons.1 hq with rfl | hq
      · exact hrun
      · exact hpast.running q hq
    · show _ ↔ s.host.phase ≠ .handshake
      simp [← hpast.sent]
    · show _ ↔ s.plugin.phase ≠ .handshake
      simp [← hpast.received]

theorem history_exec {evs : List (SystemEvent τ)} {u : System τ} (hu : exec (systemStep P S ndebug H) {} evs = some u) :
    u.History evs := by
  have hboth : u.Linked P ndebug H ∧ u.History evs :=
    exec_past (I := fun past s => Linked P ndebug H s ∧ History past s)
      (fun past s ev s' hs h => ⟨linked_step hs.1 h, history_step hs.1 hs.2 h⟩) ⟨linked_init, history_init⟩ hu
  exact hboth.2

/-- In terms of `std::terminate` and where the thread is. -/
theorem stopped_eq_some {evs : List (SystemEvent τ)} (h : s.History evs) {p : Process} {f : Fault} :
    s.stopped p = some f ↔ (.throws p ∈ evs ∧ f = .terminate) ∨ (s.broker p).phase = .ended f := by
  unfold stopped
  by_cases hp : p ∈ s.terminated
  · have hnot := h.running p hp f
    rw [if_pos hp, ← h.terminated p]
    simp [hp, hnot, eq_comm]
  · rw [if_neg hp, ← h.terminated p]
    simp only [hp, false_and, false_or]
    cases (s.broker p).phase <;> simp

/-- **How the broker threads end.** Whatever the effects, their callers and the network do,
a broker's thread ends by `std::terminate` exactly if one of its socket calls throws.
Otherwise the host's ends exactly if it has no library, when it is about to send its first
message, and the plugin's exactly if some effect of the library has no identifier, at that
message. It publishes the definition of the library exactly if it has received the message
and all have one, and is in its loop from then on. -/
theorem brokers_run {evs : List (SystemEvent τ)} {u : System τ} (hu : exec (systemStep P S ndebug H) {} evs = some u) :
    (∀ f, u.stopped .host = some f ↔ (.throws .host ∈ evs ∧ f = .terminate) ∨
      (.sendFirst ∈ evs ∧ H.m_ofx_library = none ∧ f = if ndebug then .undefined else .assert)) ∧
    (∀ f, u.stopped .plugin = some f ↔ (.throws .plugin ∈ evs ∧ f = .terminate) ∨
      (.receiveFirst ∈ evs ∧ f = .undefined ∧
        ∃ library, H.m_ofx_library = some library ∧ ¬ ∀ x ∈ library.effects, x.effectIdentifier ≠ none)) ∧
    (∀ d, u.m_plugin_definition = some d ↔ .receiveFirst ∈ evs ∧
      ∃ library, H.m_ofx_library = some library ∧ (∀ x ∈ library.effects, x.effectIdentifier ≠ none) ∧
        d = library.definition) ∧
    (∀ d, u.m_plugin_definition = some d → u.plugin.phase.Looping) := by
  have hhistory := history_exec hu
  have hstage := (linked_exec hu).stage
  simp only [stopped_eq_some hhistory, hhistory.sent, hhistory.received, broker]
  clear hhistory hu
  generalize u.plugin.phase = plugin, u.host.phase = host, u.m_plugin_definition = d at hstage ⊢
  generalize u.plugin.pair_socket = pair, u.unanswered = unanswered at hstage
  cases hstage with
  | unsent => simp
  | missing hlib => simp [hlib, eq_comm]
  | sent hlib hhost => simp [hlib, hhost.2]
  | @published library _ _ _ _ _ hlib hhost hplugin hread =>
    obtain ⟨hids, rfl⟩ := complete_of_ok hread
    refine ⟨fun f => ?_, fun f => ?_, fun d => ?_, fun _ _ => hplugin⟩
    · simp [hlib, hhost.2]
    · simp only [hplugin.2, hlib, Option.some.injEq, exists_eq_left', not_not.2 hids, and_false]
    · rw [and_iff_right hplugin.1]
      simp only [hlib, Option.some.injEq, exists_eq_left']
      rw [and_iff_right hids, eq_comm]
  | failed hlib hhost hread =>
    obtain ⟨hids, rfl⟩ := incomplete_of_error hread
    refine ⟨fun f => ?_, fun f => ?_, fun d => ?_, nofun⟩
    · simp [hlib, hhost.2]
    · simp only [hlib, Option.some.injEq, exists_eq_left', hids, ne_eq, reduceCtorEq, not_false_eq_true, true_and,
        and_true, BrokerPhase.ended.injEq, eq_comm]
    · simp only [hlib, Option.some.injEq, exists_eq_left', hids, false_and, and_false, reduceCtorEq]

/-- A library whose effect has no identifier, and the run of its handshake. -/
def namelessHost : HostProcess := ⟨some ⟨[⟨none, 1, 0⟩], by decide⟩, false⟩

theorem brokers_run_nameless : ∃ u : System ℕ,
    exec (systemStep .reference .obliging false namelessHost) {} [.sendFirst, .receiveFirst] = some u ∧
      u.stopped .plugin = some .undefined := by
  have hrun : (exec (systemStep (τ := ℕ) .reference .obliging false namelessHost) {}
      [.sendFirst, .receiveFirst]).isSome = true := by decide +kernel
  obtain ⟨u, hu⟩ := Option.isSome_iff_exists.1 hrun
  refine ⟨u, hu, ((brokers_run hu).2.1 .undefined).2 (Or.inr ⟨by simp, rfl, _, rfl, by decide⟩)⟩

/-! ## Conservation -/

/-- The request of effect `e` that an event sends. -/
def requested (P : Platform) (e : UInt32) (s : System τ) : SystemEvent τ → List Bytes
  | .effect e' ev => if e' = e then (s.effects e).sends P e ev else []
  | _ => []

/-- The request of effect `e` that the host's loop takes. -/
def taken (P : Platform) (e : UInt32) (s : System τ) : SystemEvent τ → List Bytes
  | .host .handle =>
    match s.host.nextMessage with
    | some (_, m, _) => [m].filter (addressed P e)
    | none => []
  | _ => []

/-- The reply for effect `e` that the host sends. -/
def answered (P : Platform) (e : UInt32) (s : System τ) : SystemEvent τ → List Bytes
  | .reply e' T message message_id =>
    match s.unanswered.find? (addressed P e') with
    | some request => [P.make_message T message e' (P.message_thread_id request) message_id].filter (addressed P e)
    | none => []
  | _ => []

/-- The message for effect `e` that the plugin broker publishes. -/
def published (P : Platform) (e : UInt32) (s : System τ) : SystemEvent τ → List Bytes
  | .plugin .handle =>
    match s.plugin.nextMessage with
    | some (.pair, m, _) => [m].filter (addressed P e)
    | _ => []
  | _ => []

/-- What effect `e` and the other ends have for the host, oldest first: what it has taken,
and what comes to it through the brokers. -/
def toHost (e : UInt32) (s : System τ) : List Bytes :=
  s.unanswered ++ s.host.pair_socket ++ s.plugin.sub_socket ++ (s.effects e).effect.unanswered

/-- What effect `e` will have at its SUB socket. -/
def toEffect (P : Platform) (e : UInt32) (s : System τ) : Option (List Bytes) :=
  (s.effects e).effect.m_sub_socket.map (· ++ s.replies P e)

/-- What transport leaves as it is. -/
structure Transported (P : Platform) (e : UInt32) (s s' : System τ) : Prop where
  terminated : s'.terminated = s.terminated
  toHost : s'.toHost e = s.toHost e
  toEffect : ∀ e', s'.toEffect P e' = s.toEffect P e'
  lock : ∀ e', (s'.effects e').m_effect_lock = (s.effects e').m_effect_lock

theorem Transported.refl (s : System τ) : Transported P e s s := ⟨rfl, rfl, fun _ => rfl, fun _ => rfl⟩

theorem Transported.trans {t : System τ} (h : Transported P e s s') (h' : Transported P e s' t) :
    Transported P e s t :=
  ⟨h'.terminated.trans h.terminated, h'.toHost.trans h.toHost, fun e' => (h'.toEffect e').trans (h.toEffect e'),
    fun e' => (h'.lock e').trans (h.lock e')⟩

/-- How far a broker is from the next round of its `for` loop. -/
def phaseRank : BrokerPhase → ℕ
  | .handshake => 5
  | .polling => 1
  | .handling _ => 0
  | .ended _ => 0

/-- How many steps the messages are from their ends. -/
def rank (e : UInt32) (s : System τ) : ℕ :=
  2 * (4 * (s.effects e).effect.unanswered.length + 3 * s.plugin.sub_socket.length +
    2 * s.host.pair_socket.length + s.plugin.pair_socket.length) + phaseRank s.plugin.phase + phaseRank s.host.phase

end System

/-- A broker in its loop with a message at one of its sockets can take it. -/
theorem BrokerThread.goes_on {t : BrokerThread} (hp : t.phase.Looping) (hpolls : t.Polls)
    (hne : t.pair_socket ≠ [] ∨ t.sub_socket ≠ []) :
    (t.phase = .polling ∧ ∃ events, events ≠ [] ∧ t.wait_all events = some { t with phase := .handling events }) ∨
      ∃ socket_enum m t', t.nextMessage = some (socket_enum, m, t') := by
  cases hphase : t.phase with
  | handshake => exact (hp.1 hphase).elim
  | ended f => exact (hp.2 f hphase).elim
  | polling =>
    refine Or.inl ⟨rfl, ?_⟩
    have hwait : ∀ entry ∈ pollerEntries, t.ready entry.socket = true →
        t.wait_all [entry] = some { t with phase := .handling [entry] } := by
      intro entry hentry hready
      unfold wait_all
      rw [if_pos, if_neg (List.cons_ne_nil _ _)]
      refine ⟨hphase, List.nodup_singleton _, fun ev hev => ?_⟩
      obtain rfl := List.mem_singleton.1 hev
      exact ⟨hentry, hready⟩
    rcases hne with hpair | hsub
    · exact ⟨[⟨.pair, .pair⟩], List.cons_ne_nil _ _, hwait _ (by simp [pollerEntries]) (by simpa [ready] using hpair)⟩
    · exact ⟨[⟨.sub, .sub⟩], List.cons_ne_nil _ _, hwait _ (by simp [pollerEntries]) (by simpa [ready] using hsub)⟩
  | handling events =>
    refine Or.inr ?_
    obtain ⟨hnil, -, hready⟩ := hpolls events hphase
    obtain ⟨ev, events, rfl⟩ := List.exists_cons_of_ne_nil hnil
    obtain ⟨hentry, hready⟩ := hready ev List.mem_cons_self
    have hrecv : ∃ m t', t.recv ev.socket = some (m, t') := by
      cases hsocket : ev.socket with
      | pair =>
        rw [hsocket] at hready
        simp only [ready, ne_eq, decide_eq_true_eq] at hready
        obtain ⟨m, ms, hms⟩ := List.exists_cons_of_ne_nil hready
        exact ⟨m, { t with pair_socket := ms }, recv_pair_eq_some.2 ⟨hms, rfl, rfl⟩⟩
      | sub =>
        rw [hsocket] at hready
        simp only [ready, ne_eq, decide_eq_true_eq] at hready
        obtain ⟨m, ms, hms⟩ := List.exists_cons_of_ne_nil hready
        exact ⟨m, { t with sub_socket := ms }, recv_sub_eq_some.2 ⟨hms, rfl, rfl⟩⟩
      | pub =>
        rw [hsocket] at hready
        cases hready
    obtain ⟨m, t', hrecv⟩ := hrecv
    unfold nextMessage
    simp only [hphase, hrecv, Option.map_some]
    exact ⟨_, _, _, rfl⟩

namespace System

variable {s s' : System τ} {ev : SystemEvent τ}

/-- Effect 1 has sent its request. -/
def requestRun : List (SystemEvent ℕ) :=
  [.sendFirst, .receiveFirst, .effect 1 (.enter 0 .Load), .effect 1 .connect, .effect 1 (.request 7)]

end System

end MfxProxy
