import MfxProxy.Proof.Catalogue
import MfxProxy.Proof.System

/-!
# Each effect's conversation

`EffectSession` takes whatever lies between an effect and its answers as one remote side.
Here it is the two brokers and the host, with requests and replies of all effects in
transit at every place between them.

* `view_simulation`: for each effect, the two processes together behave as its
  conversation. A request in transit is one not answered yet; a reply becomes the answer
  when the plugin broker publishes it.
* `system_refines`: every run of the two processes is a run of the conversation of each
  effect, with the same calls, events and results.
* `own_replies_undisturbed`: with any host that answers in order, an action acts on no reply
  but its own, as long as no receive of its effect throws.
* `own_replies_iff`: when it does so in any run.
-/

namespace MfxProxy

open Lib

variable {τ : Type} {P : Platform} {S : Suites} {ndebug : Bool} {H : HostProcess} {e : UInt32}

/-- A reply to a request of effect `e`. -/
def Replies (P : Platform) (e : UInt32) (request reply : Bytes) : Prop :=
  ∃ (T : MessageType) (message : T.Table) (message_id : UInt32), (P.message_type request).reply? = some T ∧
    reply = P.make_message T message e (P.message_thread_id request) message_id

/-- What an event is to the conversation of effect `e`, if it is one of its own. -/
def SystemEvent.own (e : UInt32) : SystemEvent τ → Option (EffectEvent τ)
  | .effect e' ev => if e' = e then some ev else none
  | _ => none

namespace System

variable {s s' : System τ} {ev : SystemEvent τ}

/-- What the plugin broker has still to publish. Its first message it keeps for itself. -/
def onPair (s : System τ) : List Bytes :=
  if s.plugin.phase = .handshake then s.plugin.pair_socket.drop 1 else s.plugin.pair_socket

/-- The replies on their way to effect `e`. -/
def replies (P : Platform) (e : UInt32) (s : System τ) : List Bytes := s.onPair.filter (addressed P e)

theorem replies_congr (h : s'.onPair = s.onPair) : s'.replies P e = s.replies P e := by rw [replies, replies, h]

/-- The requests of effect `e` on their way to the host or taken by it, oldest first. -/
def onWay (P : Platform) (e : UInt32) (s : System τ) : List Bytes :=
  (s.unanswered ++ s.host.pair_socket ++ s.plugin.sub_socket).filter (addressed P e)

/-- The conversation of effect `e` that the two processes make up: the effect as it is,
with what is on the way and what only the reply is on the way for not answered yet. -/
def View (P : Platform) (ndebug : Bool) (H : HostProcess) (e : UInt32) (s : System τ) (x : EffectSession τ) : Prop :=
  s.Linked P ndebug H ∧ ∃ requests, List.Forall₂ (Replies P e) requests (s.replies P e) ∧
    x = (s.effects e).prepend (requests ++ s.onWay P e)

theorem view_init : View P ndebug H e ({} : System τ) {} := ⟨linked_init, [], List.Forall₂.nil, rfl⟩

/-- An event that changes nothing that the conversation of `e` sees. -/
theorem View.stay {x : EffectSession τ} (hx : View P ndebug H e s x) (hlinked : s'.Linked P ndebug H)
    (heffect : s'.effects e = s.effects e) (hreplies : s'.replies P e = s.replies P e)
    (hway : s'.onWay P e = s.onWay P e) : View P ndebug H e s' x := by
  obtain ⟨-, requests, hrequests, rfl⟩ := hx
  refine ⟨hlinked, requests, ?_, ?_⟩
  · rw [hreplies]
    exact hrequests
  · rw [heffect, hway]

/-! ## One event -/

/-- The plugin broker in its loop publishes what waits at its PAIR socket. -/
theorem onPair_looping (h : s.plugin.phase ≠ .handshake) : s.onPair = s.plugin.pair_socket := if_neg h

theorem filter_eraseP_of_ne {l : List Bytes} {e' : UInt32} (he : e' ≠ e) :
    (l.eraseP (addressed P e')).filter (addressed P e) = l.filter (addressed P e) := by
  induction l with
  | nil => rfl
  | cons m l ih =>
    by_cases hm : addressed P e' m = true
    · have hne : ¬ addressed P e m = true := by
        rw [addressed_iff] at hm ⊢
        rw [hm]
        exact fun h => he (Except.ok.inj h)
      rw [List.eraseP_cons_of_pos hm, List.filter_cons_of_neg hne]
    · rw [List.eraseP_cons_of_neg hm, List.filter_cons, List.filter_cons, ih]

/-- The oldest request of the effect is the first of those that carry its id. -/
theorem filter_of_find? {l : List Bytes} {request : Bytes} (h : l.find? (addressed P e) = some request) :
    l.filter (addressed P e) = request :: (l.eraseP (addressed P e)).filter (addressed P e) := by
  induction l with
  | nil => cases h
  | cons m l ih =>
    by_cases hm : addressed P e m = true
    · rw [List.find?_cons_of_pos hm] at h
      obtain rfl := Option.some.inj h
      rw [List.eraseP_cons_of_pos hm, List.filter_cons_of_pos hm]
    · rw [List.find?_cons_of_neg hm] at h
      rw [List.eraseP_cons_of_neg hm, List.filter_cons_of_neg hm, List.filter_cons_of_neg hm, ih h]

theorem view_effect (hs : s.Linked P ndebug H) {x y : EffectSession τ} {ev : EffectEvent τ}
    (hx : View P ndebug H e s x) (hev : ev.isAnswer = false)
    (hy : effectStep P S ndebug e (s.effects e) ev = some y) :
    ∃ u, effectStep P S ndebug e x ev = some u ∧
      View P ndebug H e { s with effects := Function.update s.effects e y } u := by
  obtain ⟨-, requests, hrequests, rfl⟩ := hx
  refine ⟨y.prepend (requests ++ s.onWay P e), effectStep_prepend _ hev hy, linked_effect hs hev hy,
    requests, hrequests, ?_⟩
  show _ = (Function.update s.effects e y e).prepend (requests ++ s.onWay P e)
  rw [Function.update_self]

/-- A message of the effect reaches the plugin broker: it is still on the way. -/
theorem view_arrive (hs : s.Linked P ndebug H) {x : EffectSession τ} (hx : View P ndebug H e s x) {e' : UInt32}
    {m : Bytes} {ms : List Bytes} (hms : (s.effects e').effect.unanswered = m :: ms) :
    View P ndebug H e { s with
      effects := Function.update s.effects e'
        { s.effects e' with effect := { (s.effects e').effect with unanswered := ms } }
      plugin := { s.plugin with sub_socket := s.plugin.sub_socket ++ [m] } } x := by
  have hlinked := linked_arrive hs hms
  have hm : P.effect_id m = .ok e' := hs.sent e' m (by rw [hms]; exact List.mem_cons_self)
  have hway : (s.unanswered ++ s.host.pair_socket ++ (s.plugin.sub_socket ++ [m])).filter (addressed P e) =
      s.onWay P e ++ [m].filter (addressed P e) := by
    rw [← List.append_assoc, List.filter_append]
    rfl
  by_cases he : e' = e
  · subst he
    obtain ⟨-, requests, hrequests, rfl⟩ := hx
    refine ⟨hlinked, requests, hrequests, ?_⟩
    show _ = (Function.update s.effects e' _ e').prepend (requests ++ List.filter _ _)
    rw [hway, Function.update_self, List.filter_cons_of_pos (addressed_iff.2 hm)]
    simp [EffectSession.prepend, EffectState.prepend, hms]
  · have hnot : ¬ addressed P e m = true := by
      rw [addressed_iff, hm]
      exact fun h => he (Except.ok.inj h)
    refine hx.stay hlinked (Function.update_of_ne (Ne.symm he) _ _) rfl ?_
    show List.filter _ _ = _
    rw [hway, List.filter_cons_of_neg hnot, List.filter_nil, List.append_nil]

/-- The plugin broker reads the message that it keeps for itself. -/
theorem onPair_receiveFirst {m : Bytes} {t : BrokerThread} (hphase : s.plugin.phase = .handshake)
    (hrecv : s.plugin.recv .pair = some (m, t)) (d : Option BrokerPluginBundleDefinition) (p : BrokerPhase)
    (hp : p ≠ .handshake) :
    onPair { s with plugin := { t with phase := p }, m_plugin_definition := d } = s.onPair := by
  obtain ⟨hpair, -, -⟩ := BrokerThread.recv_pair_eq_some.1 hrecv
  unfold onPair
  rw [if_neg hp, if_pos hphase, hpair, List.drop_one, List.tail_cons]

theorem onWay_receiveFirst {m : Bytes} {t : BrokerThread} (hrecv : s.plugin.recv .pair = some (m, t))
    (d : Option BrokerPluginBundleDefinition) (p : BrokerPhase) :
    onWay P e { s with plugin := { t with phase := p }, m_plugin_definition := d } = s.onWay P e := by
  obtain ⟨-, hsub, -⟩ := BrokerThread.recv_pair_eq_some.1 hrecv
  unfold onWay
  rw [hsub]

theorem onPair_pluginWait {t : BrokerThread} (ht : s.plugin.Waits t) :
    onPair { s with plugin := t } = s.onPair := by
  rw [onPair_looping ht.before.1, onPair_looping ht.after.1, ht.pair_socket]

theorem view_pluginWait (hs : s.Linked P ndebug H) {x : EffectSession τ} (hx : View P ndebug H e s x)
    {t : BrokerThread} (ht : s.plugin.Waits t) : View P ndebug H e { s with plugin := t } x := by
  refine hx.stay (linked_pluginWait hs ht) rfl (replies_congr (onPair_pluginWait ht)) ?_
  unfold onWay
  rw [ht.sub_socket]

/-- The plugin broker publishes a message: the effect whose id it carries gets it, and it is
no longer on its way. -/
structure Publishes (P : Platform) (e : UInt32) (s : System τ) (m : Bytes) (s' : System τ) : Prop where
  before : s.replies P e = [m].filter (addressed P e) ++ s'.replies P e
  onWay : s'.onWay P e = s.onWay P e
  effect : s'.effects e =
    if addressed P e m = true then { s.effects e with effect := (s.effects e).effect.deliver m } else s.effects e

theorem publishes_of (hs : s.Linked P ndebug H) {m : Bytes} {t : BrokerThread} (ht : s.plugin.Takes .pair m t)
    (e : UInt32) : Publishes P e s m (({ s with plugin := t } : System τ).send_message_pub P m) := by
  obtain ⟨-, hpair, hsub⟩ | ⟨hsocket, -⟩ := ht.socket
  · have hwell := hs.wellFormed m (by rw [hpair]; exact List.mem_cons_self)
    refine ⟨?_, ?_, ?_⟩
    · rw [replies, replies, onPair_looping ht.before.1,
        onPair_looping (s := ({ s with plugin := t } : System τ).send_message_pub P m) ht.after.1, hpair,
        ← List.filter_append]
      rfl
    · show (s.unanswered ++ s.host.pair_socket ++ t.sub_socket).filter _ = _
      rw [hsub]
      rfl
    · rw [← isPrefixOf_eq_addressed hwell]
      rfl
  · cases hsocket

/-- To the effect whose id it carries the message is the answer to its oldest request, to
the others it is nothing. -/
theorem view_publish (hs : s.Linked P ndebug H) {x : EffectSession τ} (hx : View P ndebug H e s x) {m : Bytes}
    {t : BrokerThread} (ht : s.plugin.Takes .pair m t) :
    ∃ bs u, bs.filter (fun b => !b.isAnswer) = [] ∧ exec (effectStep P S ndebug e) x bs = some u ∧
      View P ndebug H e (({ s with plugin := t } : System τ).send_message_pub P m) u := by
  have hlinked := linked_publish hs ht
  obtain ⟨hreplies, hway, heffect⟩ := publishes_of hs ht e
  by_cases hm : addressed P e m = true
  · -- the oldest request is answered
    obtain ⟨-, requests, hrequests, rfl⟩ := hx
    rw [hreplies, List.filter_cons_of_pos hm] at hrequests
    obtain ⟨request, requests, ⟨T, message, id, htype, hreply⟩, hrest, rfl⟩ :=
      List.forall₂_cons_right_iff.1 hrequests
    refine ⟨[.answer T message id], ((({ s with plugin := t } : System τ).send_message_pub P m).effects e).prepend
      (requests ++ s.onWay P e), rfl, ?_, hlinked, requests, hrest, ?_⟩
    · rw [exec_cons]
      refine ⟨_, ?_, exec_nil⟩
      rw [heffect, if_pos hm]
      simp only [effectStep, EffectSession.prepend, EffectState.prepend, List.cons_append]
      rw [if_pos htype, ← hreply]
      rfl
    · rw [hway]
  · refine ⟨[], x, rfl, exec_nil, hx.stay hlinked ?_ ?_ hway⟩
    · rw [heffect, if_neg hm]
    · rw [hreplies, List.filter_cons_of_neg hm]
      rfl

theorem onPair_pass {m : Bytes} {t : BrokerThread} (ht : s.plugin.Takes .sub m t) :
    (({ s with plugin := t } : System τ).send_message_pair m).onPair = s.onPair := by
  obtain ⟨hsocket, -⟩ | ⟨-, hsub, hpair⟩ := ht.socket
  · cases hsocket
  · rw [onPair_looping ht.before.1,
      onPair_looping (s := ({ s with plugin := t } : System τ).send_message_pair m) ht.after.1]
    exact hpair

theorem view_pass (hs : s.Linked P ndebug H) {x : EffectSession τ} (hx : View P ndebug H e s x) {m : Bytes}
    {t : BrokerThread} (ht : s.plugin.Takes .sub m t) :
    View P ndebug H e (({ s with plugin := t } : System τ).send_message_pair m) x := by
  have hlinked := linked_pass hs ht
  obtain ⟨hsocket, -⟩ | ⟨-, hsub, hpair⟩ := ht.socket
  · cases hsocket
  · refine hx.stay hlinked rfl (replies_congr (onPair_pass ht)) ?_
    show (s.unanswered ++ (s.host.pair_socket ++ [m]) ++ t.sub_socket).filter _ = _
    unfold onWay
    rw [hsub]
    simp

/-- The host's first message is for the plugin broker alone. -/
structure Sent (s s' : System τ) : Prop where
  effects : s'.effects = s.effects
  onPair : s'.onPair = s.onPair
  unanswered : s'.unanswered = s.unanswered
  host : s'.host.pair_socket = s.host.pair_socket
  sub_socket : s'.plugin.sub_socket = s.plugin.sub_socket
  terminated : s'.terminated = s.terminated

theorem sent_of (hs : s.Linked P ndebug H) (hphase : s.host.phase = .handshake) :
    Sent s (s.sendFirst P ndebug H) := by
  have hstage := hs.stage
  rw [hphase] at hstage
  obtain ⟨hplugin, hpair, -, -⟩ := hstage.quiet
  unfold sendFirst
  cases H.m_ofx_library with
  | none => exact ⟨rfl, rfl, rfl, rfl, rfl, rfl⟩
  | some library =>
    refine ⟨rfl, ?_, rfl, rfl, rfl, rfl⟩
    unfold onPair
    rw [if_pos hplugin]
    show (if s.plugin.phase = .handshake then (s.plugin.pair_socket ++ [library.firstMessage P]).drop 1 else _) = _
    rw [if_pos hplugin, hpair]
    rfl

theorem view_sendFirst (hs : s.Linked P ndebug H) {x : EffectSession τ} (hx : View P ndebug H e s x)
    (hphase : s.host.phase = .handshake) : View P ndebug H e (s.sendFirst P ndebug H) x := by
  have hsent := sent_of hs hphase
  refine hx.stay (linked_sendFirst hs hphase) (by rw [hsent.effects]) (replies_congr hsent.onPair) ?_
  unfold onWay
  rw [hsent.unanswered, hsent.host, hsent.sub_socket]

theorem view_hostWait (hs : s.Linked P ndebug H) {x : EffectSession τ} (hx : View P ndebug H e s x)
    {t : BrokerThread} (ht : s.host.Waits t) : View P ndebug H e { s with host := t } x := by
  refine hx.stay (linked_hostWait hs ht) rfl rfl ?_
  unfold onWay
  rw [ht.pair_socket]

theorem view_take (hs : s.Linked P ndebug H) {x : EffectSession τ} (hx : View P ndebug H e s x) {m : Bytes}
    {t : BrokerThread} (ht : s.host.Takes .pair m t) :
    View P ndebug H e { s with host := t, unanswered := s.unanswered ++ [m] } x := by
  have hlinked := linked_take hs ht
  obtain ⟨-, hpair, -⟩ | ⟨hsocket, -⟩ := ht.socket
  · refine hx.stay hlinked rfl rfl ?_
    unfold onWay
    rw [hpair]
    simp
  · cases hsocket

/-- The host puts a reply on PAIR. -/
theorem replies_reply (hs : s.Linked P ndebug H) (hne : s.unanswered ≠ []) (us : List Bytes) (m : Bytes) :
    replies P e (({ s with unanswered := us } : System τ).host_send_message_pair m) =
      s.replies P e ++ [m].filter (addressed P e) := by
  rw [replies, replies, ← List.filter_append]
  congr 1
  show (if s.plugin.phase = .handshake then (s.plugin.pair_socket ++ [m]).drop 1 else s.plugin.pair_socket ++ [m]) =
    (if s.plugin.phase = .handshake then s.plugin.pair_socket.drop 1 else s.plugin.pair_socket) ++ [m]
  by_cases hphase : s.plugin.phase = .handshake
  · -- the host's first message is before it
    have hstage := hs.stage
    rw [hphase] at hstage
    have hlen := List.length_pos_of_ne_nil (hstage.waits hne)
    rw [if_pos hphase, if_pos hphase, List.drop_append_of_le_length hlen]
  · rw [if_neg hphase, if_neg hphase]

/-- What was found is in the list. -/
theorem unanswered_ne_nil {request : Bytes} (hfind : s.unanswered.find? (addressed P e) = some request) :
    s.unanswered ≠ [] := by
  intro hnil
  rw [hnil] at hfind
  cases hfind

/-- The host answers a request: of the effect that sent it only the reply is on the way. -/
theorem view_reply (hs : s.Linked P ndebug H) {x : EffectSession τ} (hx : View P ndebug H e s x) {e' : UInt32}
    {request : Bytes} {T : MessageType} {message : T.Table} {id : UInt32}
    (hfind : s.unanswered.find? (addressed P e') = some request) (htype : (P.message_type request).reply? = some T) :
    View P ndebug H e
      (({ s with unanswered := s.unanswered.eraseP (addressed P e') } : System τ).host_send_message_pair
        (P.make_message T message e' (P.message_thread_id request) id)) x := by
  have hne := unanswered_ne_nil hfind
  have hlinked := linked_reply hs (m := P.make_message T message e' (P.message_thread_id request) id)
    ⟨_, _, _, _, _, rfl⟩ hne (List.eraseP_subset (p := addressed P e'))
  have hway : onWay P e
      (({ s with unanswered := s.unanswered.eraseP (addressed P e') } : System τ).host_send_message_pair
        (P.make_message T message e' (P.message_thread_id request) id)) =
      (s.unanswered.eraseP (addressed P e')).filter (addressed P e) ++
        (s.host.pair_socket ++ s.plugin.sub_socket).filter (addressed P e) := by
    rw [← List.filter_append, ← List.append_assoc]
    rfl
  have hbefore : s.onWay P e = s.unanswered.filter (addressed P e) ++
      (s.host.pair_socket ++ s.plugin.sub_socket).filter (addressed P e) := by
    rw [← List.filter_append, ← List.append_assoc]
    rfl
  by_cases he : e' = e
  · subst he
    obtain ⟨-, requests, hrequests, rfl⟩ := hx
    have hm : addressed P e' (P.make_message T message e' (P.message_thread_id request) id) = true :=
      addressed_iff.2 Platform.effect_id_make_message
    refine ⟨hlinked, requests ++ [request], ?_, ?_⟩
    · rw [replies_reply hs hne, List.filter_cons_of_pos hm]
      exact List.rel_append hrequests (.cons ⟨T, message, id, htype, rfl⟩ .nil)
    · rw [hway, hbefore, filter_of_find? hfind]
      show (s.effects e').prepend _ = (s.effects e').prepend _
      simp
  · have hm : ¬ addressed P e (P.make_message T message e' (P.message_thread_id request) id) = true := by
      rw [addressed_iff, Platform.effect_id_make_message]
      exact fun h => he (Except.ok.inj h)
    refine hx.stay hlinked rfl ?_ ?_
    · rw [replies_reply hs hne, List.filter_cons_of_neg hm, List.filter_nil, List.append_nil]
    · rw [hway, hbefore, filter_eraseP_of_ne he]

/-! ## Every event -/

/-- **The two processes simulate the conversation of each effect.** The labels tell that
the effect's own events are the same, and all others are answers. -/
theorem view_simulation (P : Platform) (S : Suites) (ndebug : Bool) (H : HostProcess) (e : UInt32) :
    Simulation (systemStep (τ := τ) P S ndebug H) (effectStep P S ndebug e) (View P ndebug H e)
      (fun ev evs => evs.filter (fun b => !b.isAnswer) = (ev.own e).toList) := by
  intro s ev s' x hx h
  have hs := hx.1
  -- an event that the conversation does not see
  have hstay : ev.own e = none → View P ndebug H e s' x → ∃ bs u,
      List.filter (fun b => !b.isAnswer) bs = (ev.own e).toList ∧ exec (effectStep P S ndebug e) x bs = some u ∧
        View P ndebug H e s' u := by
    intro hown hview
    exact ⟨[], x, by rw [hown]; rfl, exec_nil, hview⟩
  cases moves_of hs h with
  | @effect e' ev y hdef hev hy =>
    by_cases he : e' = e
    · subst he
      obtain ⟨u, hu, hview⟩ := view_effect hs hx hev hy
      refine ⟨[ev], u, ?_, exec_cons.2 ⟨u, hu, exec_nil⟩, hview⟩
      simp [SystemEvent.own, hev]
    · refine hstay (if_neg he) (hx.stay (linked_effect hs hev hy) ?_ rfl rfl)
      exact Function.update_of_ne (Ne.symm he) _ _
  | arrive hms => exact hstay rfl (view_arrive hs hx hms)
  | readFirst hphase hrecv hread =>
    refine hstay rfl (hx.stay ((linked_receiveFirst hs hphase hrecv).1 _ hread) rfl ?_ ?_)
    · exact replies_congr (onPair_receiveFirst hphase hrecv _ .polling nofun)
    · exact onWay_receiveFirst hrecv _ .polling
  | failFirst hphase hrecv hread =>
    refine hstay rfl (hx.stay ((linked_receiveFirst hs hphase hrecv).2 _ hread) rfl ?_ ?_)
    · exact replies_congr (onPair_receiveFirst hphase hrecv _ (.ended _) nofun)
    · exact onWay_receiveFirst hrecv _ (.ended _)
  | pluginWait ht => exact hstay rfl (view_pluginWait hs hx ht)
  | publish ht => exact view_publish hs hx ht
  | pass ht => exact hstay rfl (view_pass hs hx ht)
  | sendFirst hphase => exact hstay rfl (view_sendFirst hs hx hphase)
  | hostWait ht => exact hstay rfl (view_hostWait hs hx ht)
  | take ht => exact hstay rfl (view_take hs hx ht)
  | reply hserves hfind htype => exact hstay rfl (view_reply hs hx hfind htype)
  | throws hrun => exact hstay rfl (hx.stay (linked_step hs h) rfl rfl rfl)

/-- **Every run of the two processes is a run of each effect's conversation.**

The effect goes through the same events of its own, in the same order, and is in the same
state; in between it is answered. What the conversation counts as not answered yet is, in
this order, what a reply is on the way for, what is on the way to the host or with it,
and what the effect has sent last. -/
theorem system_refines (P : Platform) (S : Suites) (ndebug : Bool) (H : HostProcess) (e : UInt32)
    {evs : List (SystemEvent τ)} {u : System τ} (hu : exec (systemStep P S ndebug H) {} evs = some u) :
    ∃ evs' x, exec (effectStep P S ndebug e) {} evs' = some x ∧
      evs'.filter (fun b => !b.isAnswer) = evs.filterMap (SystemEvent.own e) ∧
      u.effects e = { x with effect := { x.effect with unanswered := (u.effects e).effect.unanswered } } ∧
      ∃ requests, List.Forall₂ (Replies P e) requests (u.replies P e) ∧
        x.effect.unanswered = requests ++ u.onWay P e ++ (u.effects e).effect.unanswered := by
  obtain ⟨bss, x, hlabels, hx, -, requests, hrequests, rfl⟩ := (view_simulation P S ndebug H e).exec view_init hu
  refine ⟨bss.flatten, _, hx, ?_, rfl, requests, hrequests, rfl⟩
  clear hx hu hrequests
  induction hlabels with
  | nil => rfl
  | @cons ev bs evs bss hev hrest ih =>
    rw [List.flatten_cons, List.filter_append, hev, ih]
    cases hown : ev.own e with
    | none => rw [List.filterMap_cons_none hown]; rfl
    | some b => rw [List.filterMap_cons_some hown]; rfl

/-- Two effects load at the same time, and a host that serves answers the second one. -/
def loadRun : List (SystemEvent ℕ) :=
  [.sendFirst, .receiveFirst, .effect 0 (.enter 0 .Load), .effect 1 (.enter 1 .Load), .effect 1 .connect,
    .effect 1 (.request 7), .arrive 1, .effect 0 .connect, .plugin (.wait_all [⟨.sub, .sub⟩]), .effect 0 (.request 7),
    .plugin .handle, .arrive 0, .host (.wait_all [⟨.pair, .pair⟩]), .plugin (.wait_all [⟨.sub, .sub⟩]), .host .handle,
    .plugin .handle, .reply 1 .ActionLoadEnd ⟨some ⟨kOfxStatOK⟩⟩ 0, .plugin (.wait_all [⟨.pair, .pair⟩]),
    .plugin .handle, .effect 1 .receive, .effect 1 .leave]

/-- The host process with a library of two effects. -/
def twoEffectsHost (serves : Bool) : HostProcess := ⟨some twoEffects, serves⟩

theorem loadRun_isSome :
    (exec (systemStep .reference .obliging false (twoEffectsHost true)) {} loadRun).isSome = true := by decide +kernel

theorem system_refines_load : ∃ (u : System ℕ) (evs' : List (EffectEvent ℕ)) (x : EffectSession ℕ),
    exec (systemStep .reference .obliging false (twoEffectsHost true)) {} loadRun = some u ∧
    exec (effectStep .reference .obliging false 1) {} evs' = some x ∧ x.ended = [(1, .ok kOfxStatOK)] := by
  have hu := (Option.some_get loadRun_isSome).symm
  obtain ⟨evs', x, hx, -, hsame, -⟩ := system_refines .reference .obliging false (twoEffectsHost true) 1 hu
  refine ⟨_, evs', x, hu, hx, ?_⟩
  have hended := congrArg EffectSession.ended hsame
  exact hended.symm

/-! ## Which request a reply is taken to answer -/

/-- The thread ids of the requests of effect `e` that no reply was taken for, wherever the
request or its reply is. -/
def pending (P : Platform) (e : UInt32) (s : System τ) : List UInt32 :=
  (((s.effects e).effect.m_sub_socket.getD []) ++ s.replies P e ++ s.onWay P e ++
    (s.effects e).effect.unanswered).map P.message_thread_id

theorem map_message_thread_id {requests replies : List Bytes} (h : List.Forall₂ (Replies P e) requests replies) :
    requests.map P.message_thread_id = replies.map P.message_thread_id := by
  induction h with
  | nil => rfl
  | cons hreply hrest ih =>
    obtain ⟨T, message, id, -, rfl⟩ := hreply
    rw [List.map_cons, List.map_cons, ih, Platform.message_thread_id_make_message]

/-- The conversation has the same pending requests. -/
theorem View.pending {x : EffectSession τ} (hx : View P ndebug H e s x) : x.effect.pending P = s.pending P e := by
  obtain ⟨-, requests, hrequests, rfl⟩ := hx
  have hids := map_message_thread_id hrequests
  simp only [EffectState.pending, System.pending, EffectSession.prepend, EffectState.prepend, List.map_append, hids,
    List.append_assoc]

/-- It acts on the same replies. -/
theorem View.accepts {x : EffectSession τ} (hx : View P ndebug H e s x) (ev : EffectEvent τ) :
    x.accepts P ev = (s.effects e).accepts P ev := by
  obtain ⟨-, requests, -, rfl⟩ := hx
  exact accepts_prepend _

/-- As long as no receive of the effect throws, its actions act on their own replies. -/
theorem own_replies_undisturbed {evs : List (SystemEvent τ)} {u : System τ}
    (hev : ∀ ev ∈ evs, ev ≠ .effect e .receiveError) (hu : exec (systemStep P S ndebug H) {} evs = some u) :
    AllSteps (systemStep P S ndebug H) (fun s ev => ∀ b ∈ ev.own e, AcceptsOwn P (s.effects e) b) {} evs := by
  refine (view_simulation P S ndebug H e).allSteps (I := Undisturbed P) (C := fun b => b ≠ .receiveError)
    (D := fun ev => ev ≠ .effect e .receiveError) (fun _ _ _ hx hb h => undisturbed_step hx hb h) ?_ ?_ view_init
    undisturbed_init hev hu
  · intro ev bs hne hbs b hb
    rintro rfl
    have hmem : EffectEvent.receiveError ∈ bs.filter (fun b => !b.isAnswer) := List.mem_filter.2 ⟨hb, rfl⟩
    rw [hbs] at hmem
    cases ev with
    | effect e' ev =>
      by_cases he : e' = e
      · subst he
        simp only [SystemEvent.own, if_true, Option.toList_some, List.mem_singleton] at hmem
        exact hne (by rw [hmem])
      · simp [SystemEvent.own, he] at hmem
    | _ => cases hmem
  · rintro s ev x hx hund b - ⟨id, m⟩ hr
    rw [← hx.accepts b] at hr
    obtain ⟨⟨t, a, hlock⟩, ms, hsub⟩ := accepts_eq_some hr
    have hown := (hund.own t a id hlock).2
    simp only [EffectState.pending, hsub, Option.getD_some, List.cons_append, List.map_cons, List.cons.injEq] at hown
    exact hown.1

/-- **Which reply an action acts on, in the whole system.** In every run of the two
processes, whatever the host does with the requests that it takes, every reply that an
action of effect `e` acts on is the one to its own request exactly when, whenever it acts
on one, no other request of the effect is pending anywhere: at the effect, at either
broker, with the host or on the way back. So it is in particular as long as no receive of
the effect throws. -/
theorem own_replies_iff (P : Platform) (S : Suites) (ndebug : Bool) (H : HostProcess) (e : UInt32)
    {evs : List (SystemEvent τ)} {u : System τ} (hu : exec (systemStep P S ndebug H) {} evs = some u) :
    (AllSteps (systemStep P S ndebug H)
        (fun s ev => ∀ b ∈ ev.own e, ∀ _r ∈ (s.effects e).accepts P b, (s.pending P e).length = 1) {} evs ↔
      AllSteps (systemStep P S ndebug H) (fun s ev => ∀ b ∈ ev.own e, AcceptsOwn P (s.effects e) b) {} evs) ∧
    ((∀ ev ∈ evs, ev ≠ .effect e .receiveError) →
      AllSteps (systemStep P S ndebug H) (fun s ev => ∀ b ∈ ev.own e, AcceptsOwn P (s.effects e) b) {} evs) := by
  refine ⟨?_, fun hev => own_replies_undisturbed hev hu⟩
  refine allSteps_congr (I := fun s : System τ => ∃ x, View P ndebug H e s x ∧ PairingInv P x)
    (fun s ev t hs ht => ?_) (fun s ev t hs _ => ?_) ⟨_, view_init, pairingInv_init⟩ hu
  · obtain ⟨x, hx, hpairing⟩ := hs
    exact (view_simulation P S ndebug H e).step_inv (C := fun _ => True) (D := fun _ => True)
      (fun _ _ _ hx _ h => pairingInv_step hx h) (fun _ _ _ _ _ _ => trivial) hx hpairing trivial ht
  · obtain ⟨x, hx, hpairing⟩ := hs
    apply forall₂_congr
    intro b _
    have hiff : OnePending P x b ↔ AcceptsOwn P x b := onePending_iff hpairing
    unfold OnePending AcceptsOwn at hiff
    rw [hx.accepts b, hx.pending] at hiff
    exact hiff

theorem own_replies_load : AllSteps (systemStep .reference .obliging false (twoEffectsHost true))
    (fun s ev => ∀ b ∈ ev.own 1, AcceptsOwn .reference (s.effects 1) b) {} loadRun := by
  have hu := (Option.some_get loadRun_isSome).symm
  exact (own_replies_iff .reference .obliging false (twoEffectsHost true) 1 hu).1.1 (by decide +kernel)

end System

end MfxProxy
