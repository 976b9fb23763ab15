import MfxProxy.Lib.Simulation
import MfxProxy.Proof.FirstMessage
import MfxProxy.Proof.Frame
import MfxProxy.Proof.Routing
import MfxProxy.Spec.System

/-!
# The two processes together

* `Linked`: the invariant of both processes and of what is between them.
-/

namespace MfxProxy

open Lib

variable {τ : Type} {P : Platform} {S : Suites} {ndebug : Bool} {H : HostProcess}

/-! ## A broker's loop -/

/-- The thread is in its main loop. -/
def BrokerPhase.Looping (p : BrokerPhase) : Prop := p ≠ .handshake ∧ ∀ f, p ≠ .ended f

theorem looping_polling : BrokerPhase.polling.Looping := ⟨nofun, nofun⟩

theorem looping_handling (events : List PollerEvent) : (BrokerPhase.handling events).Looping := ⟨nofun, nofun⟩

namespace BrokerThread

variable {t t' : BrokerThread} {socket_enum : BrokerSocket} {m : Bytes} {events : List PollerEvent}

/-- In its `for` loop the thread has events left to handle, all of different entries of the
poller, and their sockets are ready. -/
def Polls (t : BrokerThread) : Prop :=
  ∀ events, t.phase = .handling events →
    events ≠ [] ∧ events.Nodup ∧ ∀ ev ∈ events, ev ∈ pollerEntries ∧ t.ready ev.socket = true

/-- More messages at the sockets. -/
theorem Polls.put (h : t.Polls) (sub pair : List Bytes) :
    Polls { t with sub_socket := t.sub_socket ++ sub, pair_socket := t.pair_socket ++ pair } := by
  intro events hevents
  obtain ⟨hne, hnodup, hready⟩ := h events hevents
  refine ⟨hne, hnodup, fun ev hev => ⟨(hready ev hev).1, ?_⟩⟩
  have hev := (hready ev hev).2
  cases hsocket : ev.socket with
  | pair =>
    rw [hsocket] at hev
    simp only [ready, ne_eq, decide_eq_true_eq] at hev ⊢
    simp [hev]
  | sub =>
    rw [hsocket] at hev
    simp only [ready, ne_eq, decide_eq_true_eq] at hev ⊢
    simp [hev]
  | pub =>
    rw [hsocket] at hev
    cases hev

theorem Polls.put_sub (h : t.Polls) (m : Bytes) : Polls { t with sub_socket := t.sub_socket ++ [m] } := by
  have hput := h.put [m] []
  rw [List.append_nil] at hput
  exact hput

theorem Polls.put_pair (h : t.Polls) (m : Bytes) : Polls { t with pair_socket := t.pair_socket ++ [m] } := by
  have hput := h.put [] [m]
  rw [List.append_nil] at hput
  exact hput

@[simp] theorem ready_phase (p : BrokerPhase) (b : BrokerSocket) :
    ready { t with phase := p } b = t.ready b := by cases b <;> rfl

/-- What `wait_all` changes. -/
structure Waits (t t' : BrokerThread) : Prop where
  before : t.phase.Looping
  after : t'.phase.Looping
  sub_socket : t'.sub_socket = t.sub_socket
  pair_socket : t'.pair_socket = t.pair_socket
  polls : t'.Polls

theorem waits_of (h : t.wait_all events = some t') : Waits t t' := by
  unfold wait_all at h
  rw [Option.ite_none_right_eq_some] at h
  obtain ⟨⟨hphase, hnodup, hevents⟩, h⟩ := h
  obtain rfl := Option.some.inj h
  have hloop : t.phase.Looping := by
    rw [hphase]
    exact looping_polling
  by_cases hnil : events = []
  · rw [if_pos hnil]
    refine ⟨hloop, hloop, rfl, rfl, fun evs h => ?_⟩
    rw [hphase] at h
    cases h
  · rw [if_neg hnil]
    refine ⟨hloop, looping_handling events, rfl, rfl, fun evs h => ?_⟩
    cases h
    refine ⟨hnil, hnodup, fun ev hev => ⟨(hevents ev hev).1, ?_⟩⟩
    rw [ready_phase]
    exact (hevents ev hev).2

/-- What the `recv` of a round changes. -/
structure Takes (t : BrokerThread) (socket_enum : BrokerSocket) (m : Bytes) (t' : BrokerThread) : Prop where
  next : t.nextMessage = some (socket_enum, m, t')
  before : t.phase.Looping
  after : t'.phase.Looping
  polls : t'.Polls
  socket : (socket_enum = .pair ∧ t.pair_socket = m :: t'.pair_socket ∧ t'.sub_socket = t.sub_socket) ∨
    (socket_enum = .sub ∧ t.sub_socket = m :: t'.sub_socket ∧ t'.pair_socket = t.pair_socket)

theorem recv_pair_eq_some : t.recv .pair = some (m, t') ↔
    t.pair_socket = m :: t'.pair_socket ∧ t'.sub_socket = t.sub_socket ∧ t'.phase = t.phase := by
  rcases t with ⟨p, ss, _ | ⟨m', ms⟩⟩
  · simp [recv]
  · rcases t' with ⟨p', ss', ms'⟩
    simp only [recv, Option.some.injEq, Prod.mk.injEq, BrokerThread.mk.injEq, List.cons.injEq]
    constructor
    · rintro ⟨rfl, rfl, rfl, rfl⟩; simp
    · rintro ⟨⟨rfl, rfl⟩, rfl, rfl⟩; simp

theorem recv_sub_eq_some : t.recv .sub = some (m, t') ↔
    t.sub_socket = m :: t'.sub_socket ∧ t'.pair_socket = t.pair_socket ∧ t'.phase = t.phase := by
  rcases t with ⟨p, _ | ⟨m', ms⟩, ps⟩
  · simp [recv]
  · rcases t' with ⟨p', ms', ps'⟩
    simp only [recv, Option.some.injEq, Prod.mk.injEq, BrokerThread.mk.injEq, List.cons.injEq]
    constructor
    · rintro ⟨rfl, rfl, rfl, rfl⟩; simp
    · rintro ⟨⟨rfl, rfl⟩, rfl, rfl⟩; simp

theorem takes_of (hpolls : t.Polls) (h : t.nextMessage = some (socket_enum, m, t')) : Takes t socket_enum m t' := by
  have hnext := h
  unfold nextMessage at h
  split at h
  · rename_i ev events hphase
    obtain ⟨⟨m₁, t₁⟩, hrecv, h⟩ := Option.map_eq_some_iff.1 h
    obtain ⟨hsocket, h⟩ := Prod.mk.inj h
    obtain ⟨rfl, rfl⟩ := Prod.mk.inj h
    obtain ⟨-, hnodup, hentry⟩ := hpolls _ hphase
    have hrest := List.nodup_cons.1 hnodup
    have hloop : t.phase.Looping := by
      rw [hphase]
      exact looping_handling _
    have hloop' : (if events = [] then BrokerPhase.polling else .handling events).Looping := by
      split
      · exact looping_polling
      · exact looping_handling events
    have hhead := (hentry ev List.mem_cons_self).1
    simp only [pollerEntries, List.mem_cons, List.not_mem_nil, or_false] at hhead
    -- what is left to handle is of the other entry, whose socket stays ready
    have hother : ∀ ev' ∈ events, ev' ∈ pollerEntries ∧ t₁.ready ev'.socket = true := by
      intro ev' hev'
      obtain ⟨hmem, hready⟩ := hentry ev' (List.mem_cons_of_mem _ hev')
      refine ⟨hmem, ?_⟩
      have hne : ev' ≠ ev := fun h => hrest.1 (h ▸ hev')
      simp only [pollerEntries, List.mem_cons, List.not_mem_nil, or_false] at hmem
      rcases hhead with rfl | rfl
      · obtain rfl := hmem.resolve_left hne
        obtain ⟨-, hsub, -⟩ := recv_pair_eq_some.1 hrecv
        unfold ready at hready ⊢
        rw [hsub]
        exact hready
      · obtain rfl := hmem.resolve_right hne
        obtain ⟨-, hpair, -⟩ := recv_sub_eq_some.1 hrecv
        unfold ready at hready ⊢
        rw [hpair]
        exact hready
    refine ⟨hnext, hloop, hloop', fun evs hevs => ?_, ?_⟩
    · by_cases hnil : events = []
      · rw [if_pos hnil] at hevs
        cases hevs
      · rw [if_neg hnil] at hevs
        cases hevs
        refine ⟨hnil, hrest.2, fun ev' hev' => ⟨(hother ev' hev').1, ?_⟩⟩
        rw [ready_phase]
        exact (hother ev' hev').2
    · rcases hhead with rfl | rfl
      · obtain ⟨hpair, hsub, -⟩ := recv_pair_eq_some.1 hrecv
        exact Or.inl ⟨hsocket.symm, hpair, hsub⟩
      · obtain ⟨hsub, hpair, -⟩ := recv_sub_eq_some.1 hrecv
        exact Or.inr ⟨hsocket.symm, hsub, hpair⟩
  · cases h

end BrokerThread

/-! ## The invariant of both processes -/

namespace System

variable {s s' : System τ} {ev : SystemEvent τ}

/-- How far the handshake is: the phases of the two brokers, what waits at the plugin
broker's PAIR socket, what the host has taken, and the definition published. -/
inductive Stage (P : Platform) (ndebug : Bool) (H : HostProcess) :
    (plugin host : BrokerPhase) → (pair unanswered : List Bytes) → Option BrokerPluginBundleDefinition → Prop
  /-- The host has not sent its first message. -/
  | unsent : Stage P ndebug H .handshake .handshake [] [] none
  /-- It has no library to send it for, and has ended. -/
  | missing (hlib : H.m_ofx_library = none) :
    Stage P ndebug H .handshake (.ended (if ndebug then .undefined else .assert)) [] [] none
  /-- The first message waits at the plugin broker. -/
  | sent {library host rest unanswered} (hlib : H.m_ofx_library = some library) (hhost : host.Looping) :
    Stage P ndebug H .handshake host (library.firstMessage P :: rest) unanswered none
  /-- The plugin broker has read and published it. -/
  | published {library plugin host pair unanswered d} (hlib : H.m_ofx_library = some library)
    (hhost : host.Looping) (hplugin : plugin.Looping)
    (hread : receiveDefinition P (library.firstMessage P) = .ok d) :
    Stage P ndebug H plugin host pair unanswered (some d)
  /-- The plugin broker has ended at it. -/
  | failed {library host pair unanswered f} (hlib : H.m_ofx_library = some library) (hhost : host.Looping)
    (hread : receiveDefinition P (library.firstMessage P) = .error f) :
    Stage P ndebug H (.ended f) host pair unanswered none

/-- **The invariant of the two processes.** -/
structure Linked (P : Platform) (ndebug : Bool) (H : HostProcess) (s : System τ) : Prop where
  polls : s.plugin.Polls
  hostPolls : s.host.Polls
  hostSub : s.host.sub_socket = []
  sent : ∀ e, ∀ m ∈ (s.effects e).effect.unanswered, P.effect_id m = .ok e
  requests : ∀ m ∈ s.unanswered ++ s.host.pair_socket ++ s.plugin.sub_socket, ∃ e, P.effect_id m = .ok e
  wellFormed : ∀ m ∈ s.plugin.pair_socket, WellFormed P m
  stage : Stage P ndebug H s.plugin.phase s.host.phase s.plugin.pair_socket s.unanswered s.m_plugin_definition

theorem linked_init : Linked P ndebug H ({} : System τ) where
  polls := nofun
  hostPolls := nofun
  hostSub := rfl
  sent := by intro e m hm; cases hm
  requests := by intro m hm; cases hm
  wellFormed := nofun
  stage := .unsent

namespace Stage

variable {plugin host host' : BrokerPhase} {pair pair' unanswered unanswered' : List Bytes}
  {d : Option BrokerPluginBundleDefinition}

/-- At the handshake the plugin broker finds the host's first message. -/
theorem first {m : Bytes} {rest : List Bytes} (h : Stage P ndebug H .handshake host (m :: rest) unanswered d) :
    ∃ library, H.m_ofx_library = some library ∧ host.Looping ∧ m = library.firstMessage P ∧ d = none := by
  cases h with
  | sent hlib hhost => exact ⟨_, hlib, hhost, rfl, rfl⟩
  | published hlib hhost hplugin hread => exact (hplugin.1 rfl).elim

/-- Before the host's first message nothing has happened. -/
theorem quiet (h : Stage P ndebug H plugin .handshake pair unanswered d) :
    plugin = .handshake ∧ pair = [] ∧ unanswered = [] ∧ d = none := by
  cases h with
  | unsent => exact ⟨rfl, rfl, rfl, rfl⟩
  | sent hlib hhost => exact (hhost.1 rfl).elim
  | published hlib hhost hplugin hread => exact (hhost.1 rfl).elim
  | failed hlib hhost hread => exact (hhost.1 rfl).elim

/-- What the host has taken came through the plugin broker, so the first message was sent. -/
theorem waits (h : Stage P ndebug H .handshake host pair unanswered d) (hne : unanswered ≠ []) : pair ≠ [] := by
  cases h with
  | unsent => exact (hne rfl).elim
  | missing hlib => exact (hne rfl).elim
  | sent hlib hhost => exact List.cons_ne_nil _ _
  | published hlib hhost hplugin hread => exact (hplugin.1 rfl).elim

/-- A step of the plugin broker's loop. -/
theorem plugin_loops (h : Stage P ndebug H plugin host pair unanswered d) (hp : plugin.Looping)
    {plugin' : BrokerPhase} (hp' : plugin'.Looping) (pair' : List Bytes) :
    Stage P ndebug H plugin' host pair' unanswered d := by
  cases h with
  | unsent => exact (hp.1 rfl).elim
  | missing hlib => exact (hp.1 rfl).elim
  | sent hlib hhost => exact (hp.1 rfl).elim
  | published hlib hhost hplugin hread => exact .published hlib hhost hp' hread
  | failed hlib hhost hread => exact (hp.2 _ rfl).elim

/-- A step of the host broker's loop. -/
theorem host_loops (h : Stage P ndebug H plugin host pair unanswered d) (hp : host.Looping)
    (hp' : host'.Looping) (unanswered' : List Bytes) : Stage P ndebug H plugin host' pair unanswered' d := by
  cases h with
  | unsent => exact (hp.1 rfl).elim
  | missing hlib => exact (hp.2 _ rfl).elim
  | sent hlib hhost => exact .sent hlib hp'
  | published hlib hhost hplugin hread => exact .published hlib hp' hplugin hread
  | failed hlib hhost hread => exact .failed hlib hp' hread

/-- The host sends a reply to something it has taken. -/
theorem reply (h : Stage P ndebug H plugin host pair unanswered d) (hne : unanswered ≠ []) (m : Bytes)
    (unanswered' : List Bytes) : Stage P ndebug H plugin host (pair ++ [m]) unanswered' d := by
  cases h with
  | unsent => exact (hne rfl).elim
  | missing hlib => exact (hne rfl).elim
  | sent hlib hhost => exact .sent hlib hhost
  | published hlib hhost hplugin hread => exact .published hlib hhost hplugin hread
  | failed hlib hhost hread => exact .failed hlib hhost hread

end Stage

/-! ## One event -/

theorem effect_id_request (a : EffectAction) (e id : UInt32) : P.effect_id (a.request P e id) = .ok e := by
  cases a <;> exact Platform.effect_id_make_message

theorem linked_effect (hs : s.Linked P ndebug H) {e : UInt32} {ev : EffectEvent τ} {x : EffectSession τ}
    (hev : ev.isAnswer = false) (hx : effectStep P S ndebug e (s.effects e) ev = some x) :
    Linked P ndebug H { s with effects := Function.update s.effects e x } := by
  refine { hs with sent := fun e' m hm => ?_ }
  have hm : m ∈ (Function.update s.effects e x e').effect.unanswered := hm
  by_cases he : e' = e
  · subst he
    rw [Function.update_self, effectStep_sent hev hx, List.mem_append] at hm
    rcases hm with hm | hm
    · exact hs.sent e' m hm
    · obtain ⟨a, id, rfl⟩ := mem_sends hm
      exact effect_id_request a e' id
  · rw [Function.update_of_ne he] at hm
    exact hs.sent e' m hm

theorem takeRequest_eq_some {e : UInt32} {m : Bytes} (h : s.takeRequest e = some (m, s')) : ∃ ms,
    (s.effects e).effect.unanswered = m :: ms ∧ s' = { s with
      effects := Function.update s.effects e
        { s.effects e with effect := { (s.effects e).effect with unanswered := ms } } } := by
  unfold takeRequest at h
  split at h
  · rename_i m₁ ms hms
    obtain ⟨rfl, rfl⟩ := Prod.mk.inj (Option.some.inj h)
    exact ⟨ms, hms, rfl⟩
  · cases h

theorem linked_arrive (hs : s.Linked P ndebug H) {e : UInt32} {m : Bytes} {ms : List Bytes}
    (hms : (s.effects e).effect.unanswered = m :: ms) :
    Linked P ndebug H { s with
      effects := Function.update s.effects e
        { s.effects e with effect := { (s.effects e).effect with unanswered := ms } }
      plugin := { s.plugin with sub_socket := s.plugin.sub_socket ++ [m] } } := by
  have hm : P.effect_id m = .ok e := hs.sent e m (by rw [hms]; exact List.mem_cons_self)
  refine { hs with polls := hs.polls.put_sub m, sent := fun e' m' hm' => ?_, requests := fun m' hm' => ?_ }
  · have hm' : m' ∈ (Function.update s.effects e
        { s.effects e with effect := { (s.effects e).effect with unanswered := ms } } e').effect.unanswered := hm'
    by_cases he : e' = e
    · subst he
      rw [Function.update_self] at hm'
      exact hs.sent e' m' (by rw [hms]; exact List.mem_cons_of_mem _ hm')
    · rw [Function.update_of_ne he] at hm'
      exact hs.sent e' m' hm'
  · rw [← List.append_assoc, List.mem_append, List.mem_singleton] at hm'
    rcases hm' with hm' | rfl
    · exact hs.requests m' hm'
    · exact ⟨e, hm⟩

theorem linked_receiveFirst (hs : s.Linked P ndebug H) {m : Bytes} {t : BrokerThread}
    (hphase : s.plugin.phase = .handshake) (hrecv : s.plugin.recv .pair = some (m, t)) :
    (∀ d, receiveDefinition P m = .ok d →
      Linked P ndebug H { s with plugin := { t with phase := .polling }, m_plugin_definition := some d }) ∧
    ∀ f, receiveDefinition P m = .error f →
      Linked P ndebug H { s with plugin := { t with phase := .ended f } } := by
  obtain ⟨hpair, hsub, -⟩ := BrokerThread.recv_pair_eq_some.1 hrecv
  have hwell : ∀ m ∈ t.pair_socket, WellFormed P m := fun m hm =>
    hs.wellFormed m (by rw [hpair]; exact List.mem_cons_of_mem _ hm)
  have hrequests : ∀ m ∈ s.unanswered ++ s.host.pair_socket ++ t.sub_socket, ∃ e, P.effect_id m = .ok e := by
    rw [hsub]
    exact hs.requests
  have hstage := hs.stage
  rw [hphase, hpair] at hstage
  obtain ⟨library, hlib, hhost, rfl, hdef⟩ := hstage.first
  constructor
  · intro d hread
    exact { polls := nofun, hostPolls := hs.hostPolls, hostSub := hs.hostSub, sent := hs.sent
            requests := hrequests, wellFormed := hwell, stage := .published hlib hhost looping_polling hread }
  · intro f hread
    refine { polls := nofun, hostPolls := hs.hostPolls, hostSub := hs.hostSub, sent := hs.sent
             requests := hrequests, wellFormed := hwell, stage := ?_ }
    show Stage P ndebug H (.ended f) s.host.phase t.pair_socket s.unanswered s.m_plugin_definition
    rw [hdef]
    exact .failed hlib hhost hread

/-- The two brokers' `wait_all`. -/
theorem linked_pluginWait (hs : s.Linked P ndebug H) {t : BrokerThread} (ht : s.plugin.Waits t) :
    Linked P ndebug H { s with plugin := t } := by
  refine { hs with polls := ht.polls, requests := ?_, wellFormed := ?_, stage := ?_ }
  · show ∀ m ∈ s.unanswered ++ s.host.pair_socket ++ t.sub_socket, ∃ e, P.effect_id m = .ok e
    rw [ht.sub_socket]
    exact hs.requests
  · show ∀ m ∈ t.pair_socket, WellFormed P m
    rw [ht.pair_socket]
    exact hs.wellFormed
  · exact hs.stage.plugin_loops ht.before ht.after t.pair_socket

theorem linked_hostWait (hs : s.Linked P ndebug H) {t : BrokerThread} (ht : s.host.Waits t) :
    Linked P ndebug H { s with host := t } := by
  refine { hs with hostPolls := ht.polls, hostSub := ?_, requests := ?_, stage := ?_ }
  · show t.sub_socket = []
    rw [ht.sub_socket, hs.hostSub]
  · show ∀ m ∈ s.unanswered ++ t.pair_socket ++ s.plugin.sub_socket, ∃ e, P.effect_id m = .ok e
    rw [ht.pair_socket]
    exact hs.requests
  · exact hs.stage.host_loops ht.before ht.after s.unanswered

/-- The plugin broker publishes what the host sent. -/
theorem linked_publish (hs : s.Linked P ndebug H) {m : Bytes} {t : BrokerThread} (ht : s.plugin.Takes .pair m t) :
    Linked P ndebug H (({ s with plugin := t } : System τ).send_message_pub P m) := by
  obtain ⟨-, hpair, hsub⟩ | ⟨hsocket, -⟩ := ht.socket
  · refine { hs with
      polls := ht.polls, sent := fun e m' hm' => ?_, requests := ?_, wellFormed := fun m' hm' => ?_, stage := ?_ }
    · unfold send_message_pub at hm'
      dsimp only at hm'
      split at hm'
      · exact hs.sent e m' hm'
      · exact hs.sent e m' hm'
    · show ∀ m ∈ s.unanswered ++ s.host.pair_socket ++ t.sub_socket, ∃ e, P.effect_id m = .ok e
      rw [hsub]
      exact hs.requests
    · exact hs.wellFormed m' (by rw [hpair]; exact List.mem_cons_of_mem _ hm')
    · exact hs.stage.plugin_loops ht.before ht.after t.pair_socket
  · cases hsocket

/-- It passes on what an effect sent. -/
theorem linked_pass (hs : s.Linked P ndebug H) {m : Bytes} {t : BrokerThread} (ht : s.plugin.Takes .sub m t) :
    Linked P ndebug H (({ s with plugin := t } : System τ).send_message_pair m) := by
  obtain ⟨hsocket, -⟩ | ⟨-, hsub, hpair⟩ := ht.socket
  · cases hsocket
  · refine { hs with
      polls := ht.polls, hostPolls := hs.hostPolls.put_pair m, requests := ?_, wellFormed := ?_, stage := ?_ }
    · show ∀ m' ∈ s.unanswered ++ (s.host.pair_socket ++ [m]) ++ t.sub_socket, ∃ e, P.effect_id m' = .ok e
      have hsame : s.unanswered ++ (s.host.pair_socket ++ [m]) ++ t.sub_socket =
          s.unanswered ++ s.host.pair_socket ++ s.plugin.sub_socket := by
        rw [hsub]
        simp
      rw [hsame]
      exact hs.requests
    · show ∀ m ∈ t.pair_socket, WellFormed P m
      rw [hpair]
      exact hs.wellFormed
    · exact hs.stage.plugin_loops ht.before ht.after t.pair_socket

theorem linked_sendFirst (hs : s.Linked P ndebug H) (hphase : s.host.phase = .handshake) :
    Linked P ndebug H (s.sendFirst P ndebug H) := by
  have hstage := hs.stage
  rw [hphase] at hstage
  obtain ⟨hplugin, hpair, hun, hdef⟩ := hstage.quiet
  unfold sendFirst
  cases hlib : H.m_ofx_library with
  | none =>
    refine { hs with hostPolls := nofun, stage := ?_ }
    show Stage P ndebug H s.plugin.phase (.ended (if ndebug then .undefined else .assert)) s.plugin.pair_socket
      s.unanswered s.m_plugin_definition
    rw [hplugin, hpair, hun, hdef]
    exact .missing hlib
  | some library =>
    refine { hs with polls := hs.polls.put_pair _, hostPolls := nofun, wellFormed := fun m hm => ?_, stage := ?_ }
    · have hm : m ∈ s.plugin.pair_socket ++ [library.firstMessage P] := hm
      rw [hpair, List.nil_append, List.mem_singleton] at hm
      exact ⟨.RemoteHostStarted, library.remoteHostStarted, 0, 0, 0, hm⟩
    · show Stage P ndebug H s.plugin.phase .polling (s.plugin.pair_socket ++ [library.firstMessage P])
        s.unanswered s.m_plugin_definition
      rw [hplugin, hpair, hun, hdef]
      exact .sent hlib looping_polling

theorem linked_take (hs : s.Linked P ndebug H) {m : Bytes} {t : BrokerThread} (ht : s.host.Takes .pair m t) :
    Linked P ndebug H { s with host := t, unanswered := s.unanswered ++ [m] } := by
  obtain ⟨-, hpair, hsub⟩ | ⟨hsocket, -⟩ := ht.socket
  · refine { hs with hostPolls := ht.polls, hostSub := hsub.trans hs.hostSub, requests := ?_, stage := ?_ }
    · show ∀ m' ∈ s.unanswered ++ [m] ++ t.pair_socket ++ s.plugin.sub_socket, ∃ e, P.effect_id m' = .ok e
      have hsame : s.unanswered ++ [m] ++ t.pair_socket ++ s.plugin.sub_socket =
          s.unanswered ++ s.host.pair_socket ++ s.plugin.sub_socket := by
        rw [hpair]
        simp
      rw [hsame]
      exact hs.requests
    · exact hs.stage.host_loops ht.before ht.after _
  · cases hsocket

theorem linked_reply (hs : s.Linked P ndebug H) {m : Bytes} (hm : WellFormed P m) {us : List Bytes}
    (hne : s.unanswered ≠ []) (hus : us ⊆ s.unanswered) :
    Linked P ndebug H (({ s with unanswered := us } : System τ).host_send_message_pair m) := by
  refine { hs with
    polls := hs.polls.put_pair m, requests := fun m' hm' => ?_, wellFormed := fun m' hm' => ?_, stage := ?_ }
  · have hm' : m' ∈ us ++ s.host.pair_socket ++ s.plugin.sub_socket := hm'
    apply hs.requests
    rw [List.append_assoc, List.mem_append] at hm' ⊢
    exact hm'.imp_left fun h => hus h
  · have hm' : m' ∈ s.plugin.pair_socket ++ [m] := hm'
    rw [List.mem_append, List.mem_singleton] at hm'
    rcases hm' with hm' | rfl
    · exact hs.wellFormed m' hm'
    · exact hm
  · exact hs.stage.reply hne m us

/-! ## Every event -/

/-- What an event does, in a state that meets the invariant. -/
inductive Moves (P : Platform) (S : Suites) (ndebug : Bool) (H : HostProcess) (s : System τ) :
    SystemEvent τ → System τ → Prop
  | effect {e ev x} (hdef : s.defines e = true) (hev : ev.isAnswer = false)
      (hx : effectStep P S ndebug e (s.effects e) ev = some x) :
    Moves P S ndebug H s (.effect e ev) { s with effects := Function.update s.effects e x }
  | arrive {e m ms} (hms : (s.effects e).effect.unanswered = m :: ms) :
    Moves P S ndebug H s (.arrive e) { s with
      effects := Function.update s.effects e
        { s.effects e with effect := { (s.effects e).effect with unanswered := ms } }
      plugin := { s.plugin with sub_socket := s.plugin.sub_socket ++ [m] } }
  | readFirst {m t d} (hphase : s.plugin.phase = .handshake) (hrecv : s.plugin.recv .pair = some (m, t))
      (hread : receiveDefinition P m = .ok d) :
    Moves P S ndebug H s .receiveFirst
      { s with plugin := { t with phase := .polling }, m_plugin_definition := some d }
  | failFirst {m t f} (hphase : s.plugin.phase = .handshake) (hrecv : s.plugin.recv .pair = some (m, t))
      (hread : receiveDefinition P m = .error f) :
    Moves P S ndebug H s .receiveFirst { s with plugin := { t with phase := .ended f } }
  | pluginWait {events t} (ht : s.plugin.Waits t) :
    Moves P S ndebug H s (.plugin (.wait_all events)) { s with plugin := t }
  | publish {m t} (ht : s.plugin.Takes .pair m t) :
    Moves P S ndebug H s (.plugin .handle) (({ s with plugin := t } : System τ).send_message_pub P m)
  | pass {m t} (ht : s.plugin.Takes .sub m t) :
    Moves P S ndebug H s (.plugin .handle) (({ s with plugin := t } : System τ).send_message_pair m)
  | sendFirst (hphase : s.host.phase = .handshake) : Moves P S ndebug H s .sendFirst (s.sendFirst P ndebug H)
  | hostWait {events t} (ht : s.host.Waits t) :
    Moves P S ndebug H s (.host (.wait_all events)) { s with host := t }
  | take {m t} (ht : s.host.Takes .pair m t) :
    Moves P S ndebug H s (.host .handle) { s with host := t, unanswered := s.unanswered ++ [m] }
  | reply {e request T} {message : T.Table} {message_id} (hserves : H.serves = true)
      (hfind : s.unanswered.find? (addressed P e) = some request)
      (htype : (P.message_type request).reply? = some T) :
    Moves P S ndebug H s (.reply e T message message_id)
      (({ s with unanswered := s.unanswered.eraseP (addressed P e) } : System τ).host_send_message_pair
        (P.make_message T message e (P.message_thread_id request) message_id))
  | throws {p} (hrun : ∀ f, (s.broker p).phase ≠ .ended f) :
    Moves P S ndebug H s (.throws p) { s with terminated := p :: s.terminated }

/-- An event happens in a process that goes on. -/
theorem systemStep_eq_some : systemStep P S ndebug H s ev = some s' ↔
    ev.process ∉ s.terminated ∧ s.advance P S ndebug H ev = some s' := by
  unfold systemStep
  rw [Option.ite_none_left_eq_some]

theorem moves_of (hs : s.Linked P ndebug H) (h : systemStep P S ndebug H s ev = some s') :
    Moves P S ndebug H s ev s' := by
  replace h := (systemStep_eq_some.1 h).2
  cases ev with
  | effect e ev =>
    simp only [advance] at h
    rw [Option.ite_none_right_eq_some] at h
    obtain ⟨⟨hdef, hev⟩, h⟩ := h
    obtain ⟨x, hx, rfl⟩ := Option.map_eq_some_iff.1 h
    exact .effect hdef (Bool.eq_false_iff.2 hev) hx
  | arrive e =>
    simp only [advance] at h
    obtain ⟨⟨m, s₁⟩, htake, rfl⟩ := Option.map_eq_some_iff.1 h
    obtain ⟨ms, hms, rfl⟩ := takeRequest_eq_some htake
    exact .arrive hms
  | receiveFirst =>
    simp only [advance] at h
    rw [Option.ite_none_right_eq_some] at h
    obtain ⟨hphase, h⟩ := h
    obtain ⟨⟨m, t⟩, hrecv, rfl⟩ := Option.map_eq_some_iff.1 h
    dsimp only
    split
    · rename_i d hread
      exact .readFirst hphase hrecv hread
    · rename_i f hread
      exact .failFirst hphase hrecv hread
  | plugin ev =>
    cases ev with
    | wait_all events =>
      simp only [advance] at h
      obtain ⟨t, ht, rfl⟩ := Option.map_eq_some_iff.1 h
      exact .pluginWait (BrokerThread.waits_of ht)
    | handle =>
      simp only [advance] at h
      obtain ⟨⟨socket_enum, m, t⟩, hnext, rfl⟩ := Option.map_eq_some_iff.1 h
      have ht := BrokerThread.takes_of hs.polls hnext
      -- both sockets hold messages that carry an id
      have hid : ∃ e, P.effect_id m = .ok e := by
        obtain ⟨-, hpair, -⟩ | ⟨-, hsub, -⟩ := ht.socket
        · obtain ⟨T, message, e, i, j, rfl⟩ := hs.wellFormed m (by rw [hpair]; exact List.mem_cons_self)
          exact ⟨e, Platform.effect_id_make_message⟩
        · exact hs.requests m (List.mem_append_right _ (by rw [hsub]; exact List.mem_cons_self))
      obtain ⟨e, he⟩ := hid
      simp only [he]
      obtain ⟨rfl, -⟩ | ⟨rfl, -⟩ := ht.socket
      · exact .publish ht
      · exact .pass ht
  | sendFirst =>
    simp only [advance] at h
    rw [Option.ite_none_right_eq_some] at h
    obtain ⟨hphase, h⟩ := h
    obtain rfl := Option.some.inj h
    exact .sendFirst hphase
  | host ev =>
    cases ev with
    | wait_all events =>
      simp only [advance] at h
      obtain ⟨t, ht, rfl⟩ := Option.map_eq_some_iff.1 h
      exact .hostWait (BrokerThread.waits_of ht)
    | handle =>
      simp only [advance] at h
      obtain ⟨⟨socket_enum, m, t⟩, hnext, rfl⟩ := Option.map_eq_some_iff.1 h
      have ht := BrokerThread.takes_of hs.hostPolls hnext
      -- nothing is connected to the host broker's SUB socket
      obtain ⟨rfl, hpair, -⟩ | ⟨-, hsub, -⟩ := ht.socket
      · have hm : m ∈ s.unanswered ++ s.host.pair_socket := by
          rw [hpair]
          exact List.mem_append_right _ List.mem_cons_self
        obtain ⟨e, he⟩ := hs.requests m (List.mem_append_left _ hm)
        simp only [he]
        exact .take ht
      · rw [hs.hostSub] at hsub
        cases hsub
  | reply e T message message_id =>
    simp only [advance] at h
    split at h
    · rename_i request hfind
      rw [Option.ite_none_right_eq_some] at h
      obtain ⟨⟨hserves, htype⟩, h⟩ := h
      obtain rfl := Option.some.inj h
      exact .reply hserves hfind htype
    · cases h
  | throws p =>
    simp only [advance] at h
    split at h
    · cases h
    · rename_i hrun
      obtain rfl := Option.some.inj h
      exact .throws hrun

theorem linked_step (hs : s.Linked P ndebug H) (h : systemStep P S ndebug H s ev = some s') :
    s'.Linked P ndebug H := by
  cases moves_of hs h with
  | effect hdef hev hx => exact linked_effect hs hev hx
  | arrive hms => exact linked_arrive hs hms
  | readFirst hphase hrecv hread => exact (linked_receiveFirst hs hphase hrecv).1 _ hread
  | failFirst hphase hrecv hread => exact (linked_receiveFirst hs hphase hrecv).2 _ hread
  | pluginWait ht => exact linked_pluginWait hs ht
  | publish ht => exact linked_publish hs ht
  | pass ht => exact linked_pass hs ht
  | sendFirst hphase => exact linked_sendFirst hs hphase
  | hostWait ht => exact linked_hostWait hs ht
  | take ht => exact linked_take hs ht
  | reply hserves hfind htype =>
    have hne : s.unanswered ≠ [] := by
      intro hnil
      rw [hnil] at hfind
      cases hfind
    exact linked_reply hs ⟨_, _, _, _, _, rfl⟩ hne List.eraseP_subset
  | throws hrun => exact { hs with }

theorem linked_exec {evs : List (SystemEvent τ)} {u : System τ}
    (hu : exec (systemStep P S ndebug H) {} evs = some u) : u.Linked P ndebug H :=
  exec_inv (fun _ _ _ hs h => linked_step hs h) linked_init hu

end System

end MfxProxy
