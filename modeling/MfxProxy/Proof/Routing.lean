import MfxProxy.Spec.PluginBroker
import MfxProxy.Spec.Reference

/-!
# Routing through the plugin broker

`Routed` is the invariant of the plugin side, whatever the order of sends, arrivals
and broker rounds: the broker has sent on PAIR exactly what it took from its SUB
socket, and published to each effect exactly what it took from PAIR after the
handshake and carries that effect's id.

* `routed_exec`: every execution keeps it.
* `plugin_side_routes`: no request is lost, repeated, changed or reordered on the way
  to PAIR, and every message of the host reaches the effect whose id it carries, and
  no other.
-/

namespace MfxProxy

open Lib

variable {P : Platform} {effects : Finset UInt32} {s s' : PluginSide}

/-- A well-formed `MfxProxyMessage`. -/
def WellFormed (P : Platform) (m : Bytes) : Prop :=
  ∃ T t e i j, m = P.make_message T t e i j

/-- On well-formed messages the subscription of an effect is its address. -/
theorem isPrefixOf_eq_addressed {m : Bytes} (hm : WellFormed P m) (e : UInt32) :
    (P.message_prefix e).isPrefixOf m = addressed P e m := by
  obtain ⟨T, t, e', i, j, rfl⟩ := hm
  rw [Bool.eq_iff_iff, List.isPrefixOf_iff_prefix, Platform.prefix_make_message, addressed_iff,
    Platform.effect_id_make_message]
  simp [eq_comm]

/-- What is on PAIR towards the broker and will be forwarded: in the handshake the
broker keeps the first message for itself. -/
def pairPending (s : PluginSide) : List Bytes :=
  if s.phase = .handshake then s.pairIn.waiting.drop 1 else s.pairIn.waiting

/-- **The invariant of the plugin side.** -/
structure Routed (P : Platform) (effects : Finset UInt32) (s : PluginSide) : Prop where
  live : ∀ f, s.phase ≠ .ended f
  events : ∀ evs, s.phase = .handling evs → ∀ ev ∈ evs, ev ∈ pollerEntries
  relayed : s.pairOut = s.subIn.taken
  own : ∀ e, ∀ m ∈ (s.effectOut e).sent, P.effect_id m = .ok e
  origin : ∀ m ∈ s.subIn.sent, ∃ e ∈ effects, P.effect_id m = .ok e
  arrived : ∀ e, s.subIn.sent.filter (addressed P e) = (s.effectOut e).taken
  wellFormed : ∀ m ∈ s.pairIn.sent, WellFormed P m
  first : ∀ m l, s.pairIn.sent = m :: l → ∃ d, receiveDefinition P m = .ok d
  shaken : s.phase = .handshake ↔ s.pairIn.taken = []
  published : ∀ e ∈ effects, (s.effectIn e).sent = (s.pairIn.taken.drop 1).filter (addressed P e)

theorem routed_init : Routed P effects {} where
  live := by intro f h; cases h
  events := by intro evs h; cases h
  relayed := rfl
  own := by intro e m h; simp [Fifo.sent] at h
  origin := by intro m h; simp [Fifo.sent] at h
  arrived := by intro e; rfl
  wellFormed := by intro m h; simp [Fifo.sent] at h
  first := by intro m l h; simp [Fifo.sent] at h
  shaken := by simp
  published := by intro e _; rfl

/-! ## One event -/

theorem routed_effectSend (h : Routed P effects s) {e : UInt32} {m : Bytes} (hm : P.effect_id m = .ok e) :
    Routed P effects { s with effectOut := Function.update s.effectOut e ((s.effectOut e).put m) } := by
  refine { h with own := ?_, arrived := ?_ }
  · intro e' m' hm'
    by_cases he : e' = e
    · subst he
      simp only [Function.update_self, Fifo.put_sent, List.mem_append, List.mem_singleton] at hm'
      rcases hm' with hm' | rfl
      · exact h.own _ _ hm'
      · exact hm
    · simp only [Function.update_of_ne he] at hm'
      exact h.own _ _ hm'
  · intro e'
    by_cases he : e' = e
    · subst he; simpa using h.arrived e'
    · simpa [Function.update_of_ne he] using h.arrived e'

theorem routed_arrive (h : Routed P effects s) {e : UInt32} (he : e ∈ effects) {m : Bytes} {q : Fifo Bytes}
    (ht : (s.effectOut e).take = some (m, q)) :
    Routed P effects { s with effectOut := Function.update s.effectOut e q, subIn := s.subIn.put m } := by
  obtain ⟨hw, htaken⟩ := Fifo.take_eq_some.1 ht
  have hme : P.effect_id m = .ok e := h.own e m (by simp [Fifo.sent, hw])
  refine { h with relayed := ?_, own := ?_, origin := ?_, arrived := ?_ }
  · simpa using h.relayed
  · intro e' m' hm'
    by_cases hee : e' = e
    · subst hee
      simp only [Function.update_self, Fifo.sent_of_take ht] at hm'
      exact h.own _ _ hm'
    · simp only [Function.update_of_ne hee] at hm'
      exact h.own _ _ hm'
  · intro m' hm'
    simp only [Fifo.put_sent, List.mem_append, List.mem_singleton] at hm'
    rcases hm' with hm' | rfl
    · exact h.origin m' hm'
    · exact ⟨e, he, hme⟩
  · intro e'
    -- what arrives is its sender's oldest message, and carries its id
    simp only [Fifo.put_sent, List.filter_append, h.arrived]
    by_cases hee : e' = e
    · subst hee
      have : addressed P e' m = true := addressed_iff.2 hme
      simp [htaken, this]
    · have : addressed P e' m = false := by
        rw [Bool.eq_false_iff, ne_eq, addressed_iff, hme]
        simpa using fun h : e = e' => hee h.symm
      simp [Function.update_of_ne hee, this]

theorem hostMay_first {T : MessageType} {t : T.Table} (h : hostMay s T t = true) {e i j : UInt32}
    (hnil : s.pairIn.sent = []) : ∃ d, receiveDefinition P (P.make_message T t e i j) = .ok d := by
  unfold hostMay at h
  split at h
  · rename_i data
    simp only [Bool.and_eq_true, decide_eq_true_eq] at h
    cases hd : readDefinition data with
    | error f => rw [hd] at h; simp [Except.isOk, Except.toBool] at h
    | ok d =>
      refine ⟨d, ?_⟩
      rw [receiveDefinition, Platform.message_as_make_message]
      exact hd
  · simp [hnil] at h

theorem routed_hostSend (h : Routed P effects s) {T : MessageType} {t : T.Table} {e i j : UInt32}
    (hmay : hostMay s T t = true) :
    Routed P effects { s with pairIn := s.pairIn.put (P.make_message T t e i j) } := by
  refine { h with wellFormed := ?_, first := ?_ }
  · intro m hm
    simp only [Fifo.put_sent, List.mem_append, List.mem_singleton] at hm
    rcases hm with hm | rfl
    · exact h.wellFormed m hm
    · exact ⟨T, t, e, i, j, rfl⟩
  · intro m l hl
    simp only [Fifo.put_sent] at hl
    cases hs : s.pairIn.sent with
    | nil =>
      rw [hs] at hl
      obtain ⟨rfl, -⟩ := List.cons.inj hl
      exact hostMay_first hmay hs
    | cons m' l' =>
      rw [hs] at hl
      obtain ⟨rfl, -⟩ := List.cons.inj hl
      exact h.first _ _ hs

/-- The first receive succeeds and takes exactly the first message. -/
theorem routed_receiveFirst (h : Routed P effects s) (hp : s.phase = .handshake) {m : Bytes} {q : Fifo Bytes}
    (ht : s.pairIn.take = some (m, q)) : ∃ d, receiveDefinition P m = .ok d ∧
      Routed P effects { s with pairIn := q, m_plugin_definition := some d, phase := .polling } := by
  obtain ⟨hw, htaken⟩ := Fifo.take_eq_some.1 ht
  have hnil := h.shaken.1 hp
  obtain ⟨d, hd⟩ := h.first m q.waiting (by simp [Fifo.sent, hnil, hw])
  refine ⟨d, hd, { h with live := ?_, events := ?_, wellFormed := ?_, first := ?_, shaken := ?_, published := ?_ }⟩
  · intro f hf; cases hf
  · intro evs hevs; cases hevs
  · simpa only [Fifo.sent_of_take ht] using h.wellFormed
  · simpa only [Fifo.sent_of_take ht] using h.first
  · simp [htaken]
  · intro e he
    -- the first message is kept, not published
    have := h.published e he
    rw [hnil] at this
    rw [this, htaken, hnil]; rfl

/-- A round on the PAIR socket publishes to the effect whose id the message carries. -/
theorem routed_pair (h : Routed P effects s) (hp : s.phase ≠ .handshake) {m : Bytes} {q : Fifo Bytes}
    (ht : s.pairIn.take = some (m, q)) :
    Routed P effects (({ s with pairIn := q } : PluginSide).send_message_pub P effects m) := by
  obtain ⟨hw, htaken⟩ := Fifo.take_eq_some.1 ht
  -- the first message has been taken, so this one is not it
  have hne : s.pairIn.taken ≠ [] := fun h0 => hp (h.shaken.2 h0)
  have hm : WellFormed P m := h.wellFormed m (by simp [Fifo.sent, hw])
  refine { h with wellFormed := ?_, first := ?_, shaken := ?_, published := ?_ }
  · simpa only [PluginSide.send_message_pub, Fifo.sent_of_take ht] using h.wellFormed
  · simpa only [PluginSide.send_message_pub, Fifo.sent_of_take ht] using h.first
  · simp only [PluginSide.send_message_pub, htaken]
    simpa using hp
  · intro e he
    have hdrop : (s.pairIn.taken ++ [m]).drop 1 = s.pairIn.taken.drop 1 ++ [m] := by
      rw [List.drop_append_of_le_length]
      exact List.length_pos_iff.2 hne
    simp only [PluginSide.send_message_pub, isPrefixOf_eq_addressed hm, htaken, hdrop, List.filter_append,
      he, true_and]
    by_cases ha : addressed P e m = true
    · simp [ha, h.published e he]
    · simp [ha, h.published e he]

/-- A round on the SUB socket relays the message to PAIR. -/
theorem routed_sub (h : Routed P effects s) {m : Bytes} {q : Fifo Bytes} (ht : s.subIn.take = some (m, q)) :
    Routed P effects (({ s with subIn := q } : PluginSide).send_message_pair m) := by
  obtain ⟨-, htaken⟩ := Fifo.take_eq_some.1 ht
  refine { h with relayed := ?_, origin := ?_, arrived := ?_ }
  · simp [PluginSide.send_message_pair, htaken, h.relayed]
  · simpa only [PluginSide.send_message_pair, Fifo.sent_of_take ht] using h.origin
  · simpa only [PluginSide.send_message_pair, Fifo.sent_of_take ht] using h.arrived

theorem routed_effectRecv (h : Routed P effects s) {e : UInt32} {m : Bytes} {q : Fifo Bytes}
    (ht : (s.effectIn e).take = some (m, q)) :
    Routed P effects { s with effectIn := Function.update s.effectIn e q } := by
  refine { h with published := ?_ }
  intro e' he'
  by_cases he : e' = e
  · subst he; simpa [Fifo.sent_of_take ht] using h.published e' he'
  · simpa [Function.update_of_ne he] using h.published e' he'

/-- The place of the broker thread may move while it is past the handshake. -/
theorem routed_phase (h : Routed P effects s) (hp : s.phase ≠ .handshake) {ph : BrokerPhase}
    (hne : ph ≠ .handshake) (hlive : ∀ f, ph ≠ .ended f)
    (hevs : ∀ evs, ph = .handling evs → ∀ ev ∈ evs, ev ∈ pollerEntries) :
    Routed P effects { s with phase := ph } :=
  { h with
    live := hlive
    events := hevs
    shaken := ⟨fun h' => absurd h' hne, fun h' => absurd (h.shaken.2 h') hp⟩ }

/-- **Every event keeps the invariant.** -/
theorem routed_step (s : PluginSide) (ev : PluginEvent) (s' : PluginSide) (h : Routed P effects s)
    (hs : pluginStep P effects s ev = some s') : Routed P effects s' := by
  cases ev with
  | effectSend e T t i j =>
    simp only [pluginStep, Option.ite_none_right_eq_some, Option.some.injEq] at hs
    obtain ⟨-, rfl⟩ := hs
    exact routed_effectSend h Platform.effect_id_make_message
  | arrive e =>
    simp only [pluginStep, Option.ite_none_right_eq_some, Option.map_eq_some_iff, Prod.exists] at hs
    obtain ⟨he, m, q, ht, rfl⟩ := hs
    exact routed_arrive h he ht
  | hostSend T t e i j =>
    simp only [pluginStep, Option.ite_none_right_eq_some, Option.some.injEq] at hs
    obtain ⟨hmay, rfl⟩ := hs
    exact routed_hostSend h hmay
  | receiveFirst =>
    simp only [pluginStep, Option.ite_none_right_eq_some, PluginSide.recv, Option.map_map,
      Option.map_eq_some_iff, Prod.exists] at hs
    obtain ⟨hp, m, q, ht, hs⟩ := hs
    obtain ⟨d, hd, hr⟩ := routed_receiveFirst h hp ht
    simp only [Function.comp_apply, hd] at hs
    rwa [← hs]
  | wait_all events =>
    simp only [pluginStep, Option.ite_none_right_eq_some, Option.some.injEq] at hs
    obtain ⟨⟨hp, -, hevs⟩, rfl⟩ := hs
    -- a timeout, or a round to come for every event
    split
    · exact h
    · refine routed_phase h (by simp [hp]) (by simp) (by simp) ?_
      rintro evs heq ev hev
      cases heq
      exact (hevs ev hev).1
  | handle =>
    simp only [pluginStep] at hs
    split at hs
    · rename_i ev events hp
      have hentries := h.events _ hp
      have hrest : ∀ {s : PluginSide}, Routed P effects s → s.phase ≠ .handshake →
          Routed P effects { s with phase := if events = [] then .polling else .handling events } := by
        intro s hr hne
        refine routed_phase hr hne (by split <;> simp) (by intro f; split <;> simp) ?_
        rintro evs heq ev hev
        split at heq <;> cases heq
        exact hentries ev (List.mem_cons_of_mem _ hev)
      have hev : ev = ⟨.pair, .pair⟩ ∨ ev = ⟨.sub, .sub⟩ := by
        simpa [pollerEntries] using hentries ev List.mem_cons_self
      have hne : s.phase ≠ .handshake := by simp [hp]
      -- the event carries the user data of its own socket
      rcases hev with rfl | rfl
      · simp only [PluginSide.recv, Option.map_map, Option.map_eq_some_iff, Prod.exists] at hs
        obtain ⟨m, q, ht, rfl⟩ := hs
        exact hrest (routed_pair h hne ht) hne
      · simp only [PluginSide.recv, Option.map_map, Option.map_eq_some_iff, Prod.exists] at hs
        obtain ⟨m, q, ht, rfl⟩ := hs
        exact hrest (routed_sub h ht) hne
    · cases hs
  | effectRecv e =>
    simp only [pluginStep, Option.ite_none_right_eq_some, Option.map_eq_some_iff, Prod.exists] at hs
    obtain ⟨-, m, q, ht, rfl⟩ := hs
    exact routed_effectRecv h ht

/-! ## Whole executions -/

theorem routed_exec {evs : List PluginEvent} (h : exec (pluginStep P effects) {} evs = some s) :
    Routed P effects s :=
  exec_inv routed_step routed_init h

/-- What is on PAIR towards the broker, without the first message, is what the broker
has forwarded followed by what it will forward. -/
theorem Routed.pair_split (h : Routed P effects s) :
    s.pairIn.taken.drop 1 ++ pairPending s = s.pairIn.sent.drop 1 := by
  unfold pairPending
  split
  · rename_i hp
    simp [Fifo.sent, h.shaken.1 hp]
  · rename_i hp
    have hne : s.pairIn.taken ≠ [] := fun h0 => hp (h.shaken.2 h0)
    rw [Fifo.sent, List.drop_append_of_le_length]
    exact List.length_pos_iff.2 hne

/-- **Nothing is lost, repeated, changed or misrouted on the plugin side.**

After every order of sends, arrivals and broker rounds, the broker thread is alive and

* what it has sent on PAIR, followed by what waits at its SUB socket, is what arrived
  there, and all of it was sent by a loaded effect;
* for every effect, the part of that sequence which carries its id, followed by what is
  still on the way to the broker, is what the effect sent, in order;
* for every loaded effect, what it has received, followed by what is in flight to it,
  is what the host put on PAIR after `RemoteHostStarted` with its id, in order. -/
theorem plugin_side_routes {evs : List PluginEvent} (h : exec (pluginStep P effects) {} evs = some s) :
    (∀ f, s.phase ≠ .ended f) ∧
    s.pairOut ++ s.subIn.waiting = s.subIn.sent ∧
    (∀ m ∈ s.subIn.sent, ∃ e ∈ effects, m ∈ (s.effectOut e).sent) ∧
    (∀ e, (s.pairOut ++ s.subIn.waiting).filter (addressed P e) ++ (s.effectOut e).waiting =
      (s.effectOut e).sent) ∧
    (∀ e ∈ effects, (s.effectIn e).taken ++
        ((s.effectIn e).waiting ++ (pairPending s).filter (addressed P e)) =
      (s.pairIn.sent.drop 1).filter (addressed P e)) := by
  have hr := routed_exec h
  have hsub : s.pairOut ++ s.subIn.waiting = s.subIn.sent := by rw [hr.relayed, Fifo.sent]
  refine ⟨hr.live, hsub, ?_, ?_, ?_⟩
  · intro m hm
    obtain ⟨e, he, hme⟩ := hr.origin m hm
    refine ⟨e, he, ?_⟩
    have hmem : m ∈ (s.effectOut e).taken := by
      rw [← hr.arrived e]
      exact List.mem_filter.2 ⟨hm, addressed_iff.2 hme⟩
    exact List.mem_append_left _ hmem
  · intro e
    rw [hsub, hr.arrived e, Fifo.sent]
  · intro e he
    rw [← hr.pair_split, List.filter_append, ← hr.published e he, Fifo.sent, List.append_assoc]

/-- Two effects: the first asks to be loaded while the host answers the second. -/
def routingRun : List PluginEvent :=
  [.hostSend .RemoteHostStarted ⟨1, some [⟨0, some "a", 1, 0⟩]⟩ 0 0 0, .receiveFirst,
    .effectSend 1 .ActionLoadStart () 7 0, .hostSend .ActionLoadEnd ⟨some ⟨0⟩⟩ 2 9 0, .arrive 1,
    .wait_all [⟨.sub, .sub⟩, ⟨.pair, .pair⟩], .handle, .handle, .effectRecv 2]

theorem routingRun_enabled : (exec (pluginStep .reference {1, 2}) {} routingRun).isSome = true := by
  decide +kernel

theorem plugin_side_routes_run :
    ∃ s, exec (pluginStep .reference {1, 2}) {} routingRun = some s ∧
      (s.effectIn 2).taken.length = 1 ∧
      (∀ f, s.phase ≠ .ended f) ∧
      s.pairOut ++ s.subIn.waiting = s.subIn.sent ∧
      (∀ m ∈ s.subIn.sent, ∃ e ∈ ({1, 2} : Finset UInt32), m ∈ (s.effectOut e).sent) ∧
      (∀ e, (s.pairOut ++ s.subIn.waiting).filter (addressed .reference e) ++ (s.effectOut e).waiting =
        (s.effectOut e).sent) ∧
      (∀ e ∈ ({1, 2} : Finset UInt32), (s.effectIn e).taken ++
          ((s.effectIn e).waiting ++ (pairPending s).filter (addressed .reference e)) =
        (s.pairIn.sent.drop 1).filter (addressed .reference e)) := by
  have hrun := (Option.some_get routingRun_enabled).symm
  exact ⟨_, hrun, by decide +kernel, plugin_side_routes hrun⟩

end MfxProxy
