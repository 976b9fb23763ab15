import MfxProxy.Proof.Defining
import MfxProxy.Spec.Reference

/-!
# `OfxSetHost` initialises once

No flag of the plugin says that it is initialised. What keeps a second call from
starting a second broker thread, or from defining the effects again, is the first
bind: once it has succeeded it fails for ever (`setup_sockets_bound`).

* `setup_sockets_triple`, `start_thread_triple`, `get_plugin_definition_triple`: what each
  step of a call does to the broker.
* `Fresh`, `Bound`, `Started`: where a call stands on its way to the defining loop.
* `OfxSetHost_fresh`: one call on a plugin no call has bound.
* `Between`: what holds between calls, for any calls before.
* `OfxSetHost_once`: the result for whole sessions.
-/

namespace MfxProxy

open Lib

variable {max : ℕ} {B : Build} {table : Vector OfxPlugin max} {s s₀ t : MfxProxyPlugin max}
  {env : SetHostEnv} {d : BrokerPluginBundleDefinition}

/-! ## Before the defining loop -/

/-- No effect has been defined, and the exported table is as it was. -/
structure NoEffects (table : Vector OfxPlugin max) (s : MfxProxyPlugin max) : Prop where
  entries : s.ofx_plugins = table
  effects : s.m_effects = {}
  stores : s.stores = []
  loop_starts : s.loop_starts = []

/-- No bind has succeeded. -/
structure Fresh (table : Vector OfxPlugin max) (s : MfxProxyPlugin max) : Prop extends NoEffects table s where
  broker : s.m_broker = {}

/-- The first bind has succeeded; the broker thread has not been started. -/
structure Bound (table : Vector OfxPlugin max) (s : MfxProxyPlugin max) : Prop extends NoEffects table s where
  pub : s.m_broker.pub_bound = true
  joinable : s.m_broker.joinable = false
  starts : s.m_broker.starts = 0
  definition : s.m_broker.m_plugin_definition = none

/-- The broker thread has been started, once. -/
structure Started (table : Vector OfxPlugin max) (s : MfxProxyPlugin max) : Prop extends NoEffects table s where
  pub : s.m_broker.pub_bound = true
  starts : s.m_broker.starts = 1

/-- `t` is `s` with its PUB socket bound, whatever came of the other two sockets. -/
def PubBound (s t : MfxProxyPlugin max) : Prop :=
  ∃ sub pair, t = { s with m_broker :=
    { s.m_broker with pub_bound := true, sub_bound := sub, m_pair_address := pair } }

/-- **What `setup_sockets` does**: it fails at the PUB socket and changes nothing, or binds
it, whether it fails after that or not. -/
theorem setup_sockets_triple {P : MfxProxyPlugin max → Prop} {Q : Unit → MfxProxyPlugin max → Prop}
    {E : Fault → MfxProxyPlugin max → Prop}
    (hfails : ∀ s, P s → s.m_broker.pub_bound = true ∨ env.bind_pub = false → E .error_t s)
    (hbinds : ∀ s t, P s → PubBound s t → Q () t ∧ E .error_t t) :
    Prog.Triple P (MfxProxyPlugin.setup_sockets env) Q E := by
  refine Prog.triple_get_bind fun s hs => Prog.triple_ite (fun hbound => ?_) fun _ => ?_
  · refine Prog.triple_throw fun t ht => ?_
    rw [ht]
    exact hfails s hs (by simpa using hbound)
  -- from here on only the other two sockets change
  have hthrow : Prog.Triple (PubBound s) (Prog.throw .error_t) Q E :=
    Prog.triple_throw fun t ht => (hbinds s t hs ht).2
  refine Prog.Triple.bind (Q := fun _ => PubBound s) (Prog.triple_modify fun t ht => ?_) fun _ =>
    Prog.triple_ite (fun _ => hthrow) fun _ => ?_
  · rw [ht]
    exact ⟨_, _, rfl⟩
  refine Prog.Triple.bind (Q := fun _ => PubBound s) (Prog.triple_modify ?_) fun _ =>
    Prog.triple_ite (fun _ => hthrow) fun _ => Prog.triple_modify ?_
  · rintro t ⟨sub, pair, rfl⟩
    exact ⟨_, _, rfl⟩
  · rintro t ⟨sub, pair, rfl⟩
    exact (hbinds s _ hs ⟨_, _, rfl⟩).1

/-- Binding again fails, and changes nothing. -/
theorem setup_sockets_bound (h : s.m_broker.pub_bound = true) :
    (MfxProxyPlugin.setup_sockets env).run s = (s, .error .error_t) := by
  simp [MfxProxyPlugin.setup_sockets, h]

theorem setup_sockets_fresh : Prog.Triple (Fresh table) (MfxProxyPlugin.setup_sockets env)
    (fun _ => Bound table) (fun _ s => Fresh table s ∨ Bound table s) := by
  refine setup_sockets_triple (fun s hs _ => Or.inl hs) ?_
  rintro s t hs ⟨sub, pair, rfl⟩
  have hbound : Bound table { s with m_broker :=
      { s.m_broker with pub_bound := true, sub_bound := sub, m_pair_address := pair } } := by
    rw [hs.broker]
    exact ⟨⟨hs.entries, hs.effects, hs.stores, hs.loop_starts⟩, rfl, rfl, rfl, rfl⟩
  exact ⟨hbound, Or.inr hbound⟩

/-- The broker after a thread has been assigned to `m_thread`. -/
def BrokerState.threadStarted (b : BrokerState) : BrokerState :=
  { b with starts := b.starts + 1, joinable := true }

/-- **What `start_thread` does**: it counts a start, and stops if the thread was joinable. -/
theorem start_thread_triple {P : MfxProxyPlugin max → Prop} {Q : Unit → MfxProxyPlugin max → Prop}
    {E : Fault → MfxProxyPlugin max → Prop}
    (hfirst : ∀ s, P s → s.m_broker.joinable = false → Q () { s with m_broker := s.m_broker.threadStarted })
    (hagain : ∀ s, P s → s.m_broker.joinable = true →
      E .terminate { s with m_broker := { s.m_broker with starts := s.m_broker.starts + 1 } }) :
    Prog.Triple P MfxProxyPlugin.start_thread Q E := by
  intro s hs
  cases hjoinable : s.m_broker.joinable with
  | true =>
    have hrun : MfxProxyPlugin.start_thread.run s =
        ({ s with m_broker := { s.m_broker with starts := s.m_broker.starts + 1 } }, .error .terminate) := by
      simp [MfxProxyPlugin.start_thread, MfxProxyPlugin.onBroker, hjoinable]
    rw [hrun]
    exact hagain s hs hjoinable
  | false =>
    have hrun : MfxProxyPlugin.start_thread.run s =
        ({ s with m_broker := s.m_broker.threadStarted }, .ok ()) := by
      simp [MfxProxyPlugin.start_thread, MfxProxyPlugin.onBroker, hjoinable, BrokerState.threadStarted]
    rw [hrun]
    exact hfirst s hs hjoinable

/-- **What `get_plugin_definition` does**: it returns what is published, now or before. -/
theorem get_plugin_definition_triple {P : MfxProxyPlugin max → Prop}
    {Q : Option BrokerPluginBundleDefinition → MfxProxyPlugin max → Prop} {E : Fault → MfxProxyPlugin max → Prop}
    (h : ∀ s, P s → Q (s.m_broker.m_plugin_definition <|> env.definition) { s with m_broker :=
      { s.m_broker with m_plugin_definition := s.m_broker.m_plugin_definition <|> env.definition } }) :
    Prog.Triple P (MfxProxyPlugin.get_plugin_definition env) Q E := by
  intro s hs
  exact h s hs

/-- The thread is not joinable when it is assigned. -/
theorem start_thread_bound {E : Fault → MfxProxyPlugin max → Prop} :
    Prog.Triple (Bound table) MfxProxyPlugin.start_thread
      (fun _ s => Started table s ∧ s.m_broker.m_plugin_definition = none) E := by
  refine start_thread_triple (fun s hs _ => ?_) fun s hs hjoinable => ?_
  · have hstarts : s.m_broker.threadStarted.starts = 1 := by simp [BrokerState.threadStarted, hs.starts]
    exact ⟨⟨⟨hs.entries, hs.effects, hs.stores, hs.loop_starts⟩, hs.pub, hstarts⟩, hs.definition⟩
  · rw [hs.joinable] at hjoinable
    cases hjoinable

/-- What is returned is what is published. -/
theorem get_plugin_definition_started {E : Fault → MfxProxyPlugin max → Prop} :
    Prog.Triple (fun s : MfxProxyPlugin max => Started table s ∧ s.m_broker.m_plugin_definition = none)
      (MfxProxyPlugin.get_plugin_definition env)
      (fun r s => (Started table s ∧ s.m_broker.m_plugin_definition = r) ∧ r = env.definition) E := by
  refine get_plugin_definition_triple ?_
  rintro s ⟨hs, hnone⟩
  refine ⟨⟨⟨⟨hs.entries, hs.effects, hs.stores, hs.loop_starts⟩, hs.pub, hs.starts⟩, rfl⟩, ?_⟩
  rw [hnone]
  rfl

/-! ## The defining loop -/

/-- Some call has entered the defining loop. -/
def Entered (s : MfxProxyPlugin max) : Prop := s.loop_starts ≠ [] ∧ s.m_broker.pub_bound = true

/-- However the loop ends, it has been entered, unless its first assertion failed. -/
theorem defineEffects_entered (hpub : s₀.m_broker.pub_bound = true) :
    Prog.Triple (· = s₀) (MfxProxyPlugin.defineEffects B d) (fun _ => Entered)
      (fun _ s => s = s₀ ∨ Entered s) := by
  -- the assertion on the size comes before the loop is entered
  refine Prog.Triple.bind (Q := fun _ => (· = s₀)) (Prog.triple_lift (fun _ _ _ h => h) fun _ _ _ h => Or.inl h)
    fun _ => ?_
  refine Prog.Triple.bind (Q := fun _ => Entered) (Prog.triple_modify fun s h => ?_) fun _ => ?_
  · subst h
    exact ⟨by simp, hpub⟩
  refine Prog.triple_forEach fun i _ => Prog.triple_ite (fun _ => Prog.triple_pure fun _ h => h) fun _ => ?_
  -- no step of a round undoes it
  have hlift : ∀ {α : Type} (x : Except Fault α), Prog.Triple (fun s : MfxProxyPlugin max => Entered s) (Prog.lift x)
      (fun _ => Entered) (fun _ s => s = s₀ ∨ Entered s) :=
    fun x => Prog.triple_lift (fun _ _ _ h => h) fun _ _ _ h => Or.inr h
  refine (hlift _).bind fun p => (hlift _).bind fun _ => ?_
  refine Prog.Triple.bind (Q := fun _ => Entered) ?_ fun _ => ?_
  · refine Prog.Triple.bind (Q := fun _ => Entered) (Prog.triple_modify fun _ h => h) fun _ => ?_
    split
    · exact Prog.triple_modify fun _ h => h
    · exact Prog.triple_throw fun _ h => Or.inr h
  refine Prog.Triple.bind (Q := fun _ => Entered) (Prog.triple_modify fun _ h => h) fun _ => ?_
  refine Prog.triple_get_bind fun s hs => ?_
  refine Prog.Triple.conseq ((hlift _).bind fun _ => Prog.triple_modify fun _ h => h) ?_ (fun _ _ h => h)
    fun _ _ h => h
  rintro t rfl
  exact hs

/-! ## One call -/

/-- No call has reached the defining loop. -/
structure Idle (table : Vector OfxPlugin max) (s : MfxProxyPlugin max) : Prop extends NoEffects table s where
  starts : s.m_broker.starts ≤ 1
  /-- As long as no call has bound the PUB socket, none has left a trace. -/
  fresh : s.m_broker.pub_bound = false → Fresh table s

theorem Fresh.idle (h : Fresh table s) : Idle table s :=
  ⟨h.toNoEffects, by simp [h.broker], fun _ => h⟩

theorem Bound.idle (h : Bound table s) : Idle table s :=
  ⟨h.toNoEffects, by simp [h.starts], fun hpub => by rw [h.pub] at hpub; cases hpub⟩

theorem Started.idle (h : Started table s) : Idle table s :=
  ⟨h.toNoEffects, by simp [h.starts], fun hpub => by rw [h.pub] at hpub; cases hpub⟩

/-- How a call on a fresh plugin ends: short of the defining loop, or as the loop does. -/
def CallEnds (B : Build) (table : Vector OfxPlugin max) (env : SetHostEnv) (r : Except Fault OfxStatus)
    (t : MfxProxyPlugin max) : Prop :=
  (Idle table t ∧ (r = .ok kOfxStatFailed ∨ r = .error .process_error)) ∨
  ∃ d s₀, env.definition = some d ∧ Started table s₀ ∧ s₀.m_broker.m_plugin_definition = some d ∧
    (MfxProxyPlugin.defineEffects B d >>= fun _ => pure kOfxStatOK).run s₀ = (t, r)

/-- **A call on a plugin that no call has bound.** -/
theorem OfxSetHost_fresh (B : Build) (env : SetHostEnv) (host : Option Addr) (dir : Option CStr) :
    Prog.Triple (Fresh table) (MfxProxyPlugin.OfxSetHost B host dir env)
      (fun st => CallEnds B table env (.ok st)) (fun f => CallEnds B table env (.error f)) := by
  refine Prog.Triple.bind (Q := fun _ => Fresh table) (Prog.triple_modify fun s h => ?_) fun _ => ?_
  · exact ⟨⟨h.entries, h.effects, h.stores, h.loop_starts⟩, h.broker⟩
  have failed : ∀ {s}, Idle table s → CallEnds B table env (.ok kOfxStatFailed) s :=
    fun h => Or.inl ⟨h, Or.inl rfl⟩
  cases dir with
  | none => exact Prog.triple_pure fun _ h => failed h.idle
  | some dir =>
    refine Prog.Triple.bind (Q := fun _ => Fresh table) (Prog.triple_modify fun s h => ?_) fun _ => ?_
    · exact ⟨⟨h.entries, h.effects, h.stores, h.loop_starts⟩, h.broker⟩
    refine Prog.Triple.attempt_bind setup_sockets_fresh (fun _ => ?_) fun _ =>
      Prog.triple_pure fun _ h => failed (h.elim Fresh.idle Bound.idle)
    refine Prog.Triple.bind start_thread_bound fun _ => ?_
    -- the broker thread runs, and the rest of the call cannot start another
    refine Prog.triple_ite (fun _ => Prog.triple_pure fun _ h => failed h.1.idle) fun _ => ?_
    refine Prog.triple_ite (fun _ => Prog.triple_pure fun _ h => failed h.1.idle) fun _ => ?_
    refine Prog.triple_ite (fun _ => Prog.triple_pure fun _ h => failed h.1.idle) fun _ => ?_
    refine Prog.triple_ite (fun _ => Prog.triple_throw fun _ h => Or.inl ⟨h.1.idle, Or.inr rfl⟩) fun _ => ?_
    refine Prog.Triple.bind get_plugin_definition_started fun r => ?_
    cases r with
    | none => exact Prog.triple_pure fun _ h => failed h.1.1.idle
    | some d =>
      intro s₀ h
      obtain ⟨⟨hs₀, hd⟩, henv⟩ := h
      split <;> exact Or.inr ⟨d, s₀, henv.symm, hs₀, hd, by assumption⟩

/-- **A call on a plugin that some call has bound** fails and starts nothing. -/
theorem OfxSetHost_bound (B : Build) (env : SetHostEnv) (host : Option Addr) (dir : Option CStr)
    (h : s.m_broker.pub_bound = true) :
    ∃ host' dir', (MfxProxyPlugin.OfxSetHost B host dir env).run s =
      ({ s with m_ofx_host := host', m_bundle_directory := dir' }, .ok kOfxStatFailed) := by
  cases dir with
  | none => exact ⟨host, s.m_bundle_directory, rfl⟩
  | some dir =>
    refine ⟨host, dir.str, ?_⟩
    rw [MfxProxyPlugin.OfxSetHost, Prog.run_modify_bind, Prog.run_modify_bind, Prog.run_attempt_bind,
      setup_sockets_bound (by exact h)]
    rfl

theorem CallEnds.idle {r : Except Fault OfxStatus} (h : CallEnds B table env r t) : Idle table t ∨ Entered t := by
  rcases h with ⟨h, -⟩ | ⟨d, s₀, -, hs₀, -, hrun⟩
  · exact Or.inl h
  · have hloop : Prog.Triple (· = s₀) (MfxProxyPlugin.defineEffects B d >>= fun _ => pure kOfxStatOK)
        (fun _ s => Idle table s ∨ Entered s) (fun _ s => Idle table s ∨ Entered s) := by
      refine ((defineEffects_entered hs₀.pub).conseq (fun _ h => h) (fun _ _ h => Or.inr h) ?_).bind fun _ =>
        Prog.triple_pure fun _ h => h
      rintro - s (rfl | h)
      · exact Or.inl hs₀.idle
      · exact Or.inr h
    cases r with
    | ok st => exact hloop.of_ok rfl hrun
    | error f => exact hloop.of_error rfl hrun

/-- No call disturbs an idle plugin without entering the loop. -/
theorem OfxSetHost_idle {host : Option Addr} {dir : Option CStr} :
    Prog.Triple (fun s => Idle table s ∨ Entered s) (MfxProxyPlugin.OfxSetHost B host dir env)
      (fun _ s => Idle table s ∨ Entered s) (fun _ s => Idle table s ∨ Entered s) := by
  intro s hs
  cases hpub : s.m_broker.pub_bound with
  | true =>
    obtain ⟨host', dir', hrun⟩ := OfxSetHost_bound B env host dir hpub
    rw [hrun]
    rcases hs with h | h
    · refine Or.inl ⟨⟨h.entries, h.effects, h.stores, h.loop_starts⟩, h.starts, fun h' => ?_⟩
      rw [show s.m_broker.pub_bound = false from h'] at hpub
      cases hpub
    · exact Or.inr h
  | false =>
    have hfresh : Fresh table s := by
      rcases hs with h | h
      · exact h.fresh hpub
      · rw [h.2] at hpub; cases hpub
    exact (OfxSetHost_fresh B env host dir).conseq (fun _ h => h) (fun _ _ h => h.idle) (fun _ _ h => h.idle) s hfresh

/-! ## Between calls -/

/-- What holds at every end of a call, however it ends. -/
structure Once (s : MfxProxyPlugin max) : Prop where
  starts : s.m_broker.starts ≤ 1
  loops : s.loop_starts = [] ∨ s.loop_starts = [0]
  ids : ∀ i e, s.m_effects.data[i]? = some e → e.m_effect_id = UInt32.ofNat i
  small : s.m_effects.data.length < 2 ^ 31

/-- **What holds between calls**, on a plugin whose table was `table` when it was made. -/
structure Between (table : Vector OfxPlugin max) (s : MfxProxyPlugin max) : Prop extends Once s where
  fresh : s.m_broker.pub_bound = false → Fresh table s
  counted : s.m_effects.data.length = 0 ∨ ∃ d, s.m_broker.m_plugin_definition = some d ∧
    (s.m_effects.data.length : ℤ) = d.number_of_plugins.toInt

theorem Idle.between (h : Idle table s) : Between table s := by
  refine ⟨⟨h.starts, Or.inl h.loop_starts, ?_, ?_⟩, h.fresh, Or.inl ?_⟩
  · intro i e he
    rw [h.effects] at he
    simp at he
  · rw [h.effects]; simp
  · rw [h.effects]; rfl

theorem Defined.once {k : ℕ} (h : Defined B d (loopEntry s₀) k s) (hs₀ : Started table s₀)
    (hk : k ≤ d.number_of_plugins.toInt.toNat) : Once s := by
  have hlt := d.number_of_plugins.toInt_lt
  refine ⟨?_, Or.inr ?_, h.ids, ?_⟩
  · rw [h.broker]
    exact hs₀.starts.le
  · rw [h.loop_starts, loopEntry, hs₀.loop_starts, hs₀.effects]
    rfl
  · rw [h.length]
    omega

theorem Defined.between (h : Defined B d (loopEntry s₀) d.number_of_plugins.toInt.toNat s)
    (hs₀ : Started table s₀) (hd : s₀.m_broker.m_plugin_definition = some d) : Between table s := by
  refine ⟨h.once hs₀ le_rfl, fun hpub => ?_, ?_⟩
  · rw [h.broker, show (loopEntry s₀).m_broker.pub_bound = true from hs₀.pub] at hpub
    cases hpub
  · rw [h.length, h.broker]
    -- a negative count is zero rounds
    rcases le_or_gt 0 d.number_of_plugins.toInt with hpos | hneg
    · exact Or.inr ⟨d, hd, by omega⟩
    · exact Or.inl (by omega)

/-- How a call can end without returning: the launch of the host process throws, or the
loop stops on a definition that is not consistent. -/
def CallStops (B : Build) (table : Vector OfxPlugin max) (f : Fault) (s : MfxProxyPlugin max) : Prop :=
  (f = .process_error ∧ Between table s) ∨
    ((f = .assert ∨ f = .undefined) ∧ Once s ∧ ∃ d, s.m_broker.m_plugin_definition = some d ∧ ¬ Consistent B d)

/-- One call keeps what holds between calls. -/
theorem Between.call {host : Option Addr} {dir : Option CStr}
    (hdef : ∀ d, env.definition = some d → d.number_of_plugins.toInt ≤ max) :
    Prog.Triple (Between table) (MfxProxyPlugin.OfxSetHost B host dir env) (fun _ => Between table)
      (CallStops B table) := by
  intro s hs
  cases hpub : s.m_broker.pub_bound with
  | true =>
    obtain ⟨host', dir', hrun⟩ := OfxSetHost_bound B env host dir hpub
    rw [hrun]
    refine ⟨⟨hs.starts, hs.loops, hs.ids, hs.small⟩, fun h => ?_, hs.counted⟩
    rw [show s.m_broker.pub_bound = false from h] at hpub
    cases hpub
  | false =>
    -- a call on a fresh plugin that gets to the loop
    have hloop : ∀ d s₀, env.definition = some d → Started table s₀ → s₀.m_broker.m_plugin_definition = some d →
        Prog.Triple (· = s₀) (MfxProxyPlugin.defineEffects B d >>= fun _ => pure kOfxStatOK)
          (fun _ => Between table) (CallStops B table) := by
      intro d s₀ henv hs₀ hd
      refine Prog.Triple.bind ((defineEffects_triple hs₀.effects (hdef d henv)).conseq (fun _ h => h)
        (fun _ s hD => Defined.between hD hs₀ hd) ?_) fun _ => Prog.triple_pure fun _ h => h
      rintro f s ⟨hf, hbad, rfl | ⟨k, hk, hD⟩⟩
      · exact Or.inr ⟨hf, hs₀.idle.between.toOnce, d, hd, hbad⟩
      · exact Or.inr ⟨hf, hD.once hs₀ hk.le, d, by rw [hD.broker]; exact hd, hbad⟩
    refine (OfxSetHost_fresh B env host dir).conseq (fun _ h => h) ?_ ?_ s (hs.fresh hpub)
    · rintro st t (⟨hidle, -⟩ | ⟨d, s₀, henv, hs₀, hd, hrun⟩)
      · exact hidle.between
      · exact (hloop d s₀ henv hs₀ hd).of_ok rfl hrun
    · rintro f t (⟨hidle, hr | hr⟩ | ⟨d, s₀, henv, hs₀, hd, hrun⟩)
      · cases hr
      · cases hr
        exact Or.inl ⟨rfl, hidle.between⟩
      · exact (hloop d s₀ henv hs₀ hd).of_error rfl hrun

/-! ## Whole sessions -/

theorem fresh_create {api : PluginApi} : Fresh (gOfxPlugins api max) (MfxProxyPlugin.create api) :=
  ⟨⟨rfl, rfl, rfl, rfl⟩, rfl⟩

/-- As long as no call has reached the loop, the plugin is idle. -/
theorem session_idle {calls : List SetHostCall} :
    Prog.Triple (fun s => Idle table s ∨ Entered s) (MfxProxyPlugin.OfxSetHosts B calls)
      (fun _ s => Idle table s ∨ Entered s) (fun _ _ => True) := by
  refine Prog.triple_forEach fun c _ => ?_
  refine Prog.Triple.attempt_bind (OfxSetHost_idle (B := B)) (fun _ => ?_) fun f => ?_
  · exact Prog.triple_pure fun _ h => h
  · exact Prog.triple_ite (fun _ => Prog.triple_throw fun _ _ => trivial) fun _ => Prog.triple_pure fun _ h => h

/-- Calls of `OfxSetHost` on any definitions that fit the table. -/
theorem session_between (table : Vector OfxPlugin max) {calls : List SetHostCall}
    (hdef : ∀ c ∈ calls, ∀ d, c.env.definition = some d → d.number_of_plugins.toInt ≤ max) :
    Prog.Triple (Between table) (MfxProxyPlugin.OfxSetHosts B calls) (fun _ => Between table)
      (fun f s => (f = .assert ∨ f = .undefined) ∧ Once s ∧
        ∃ d, s.m_broker.m_plugin_definition = some d ∧ ¬ Consistent B d) := by
  refine Prog.triple_forEach fun c hc => ?_
  refine Prog.Triple.attempt_bind (Between.call (hdef c hc)) (fun _ => ?_) fun f => ?_
  · exact Prog.triple_pure fun _ h => h
  · -- a failed launch is no fatal fault, so the session goes on after it
    refine Prog.triple_ite (fun hf => Prog.triple_throw fun s h => ?_) fun hf => Prog.triple_pure fun s h => ?_
    · rcases h with ⟨rfl, -⟩ | h
      · cases hf
      · exact h
    · rcases h with ⟨-, h⟩ | ⟨rfl | rfl, -⟩
      · exact h
      · exact absurd rfl hf
      · exact absurd rfl hf

/-- **`OfxSetHost` initialises at most once.**

After any calls, with any outcome of their fallible steps, the broker thread has been
started at most once and the defining loop entered at most once, with no effect there;
effect `i` has id `i`; and as long as the process lives there are no effects, or as many
as the published definition counts. The process ends only on a definition that is not
consistent. -/
theorem OfxSetHost_once (api : PluginApi) (calls : List SetHostCall) (r : Except Fault Unit)
    (hdef : ∀ c ∈ calls, ∀ d, c.env.definition = some d → d.number_of_plugins.toInt ≤ max)
    (hrun : (MfxProxyPlugin.OfxSetHosts B calls).run (MfxProxyPlugin.create api) = (t, r)) :
    t.m_broker.starts ≤ 1 ∧
    (t.loop_starts = [] ∨ t.loop_starts = [0]) ∧
    (∀ (i : ℕ) (e : MfxProxyEffect), t.m_effects.data[i]? = some e → e.m_effect_id.toNat = i) ∧
    (r = .ok () → t.m_effects.data.length = 0 ∨ ∃ d, t.m_broker.m_plugin_definition = some d ∧
      (t.m_effects.data.length : ℤ) = d.number_of_plugins.toInt) ∧
    (∀ f, r = .error f → f ≠ .terminate ∧
      ∃ d, t.m_broker.m_plugin_definition = some d ∧ ¬ Consistent B d) := by
  have htriple := session_between (B := B) (gOfxPlugins api max) hdef
  have hids : Once t → ∀ (i : ℕ) (e : MfxProxyEffect), t.m_effects.data[i]? = some e → e.m_effect_id.toNat = i := by
    intro honce i e he
    have hi : i < t.m_effects.data.length := (List.getElem?_eq_some_iff.1 he).1
    have hsmall := honce.small
    rw [honce.ids i e he]
    simp only [UInt32.toNat_ofNat']
    omega
  cases r with
  | ok u =>
    have h := htriple.of_ok fresh_create.idle.between hrun
    exact ⟨h.starts, h.loops, hids h.toOnce, fun _ => h.counted, by simp⟩
  | error f =>
    obtain ⟨hf, honce, hbad⟩ := htriple.of_error fresh_create.idle.between hrun
    refine ⟨honce.starts, honce.loops, hids honce, by simp, ?_⟩
    rintro f' h
    cases h
    refine ⟨?_, hbad⟩
    rcases hf with rfl | rfl <;> simp

/-- Three calls: without a bundle directory, with everything in place, and once more. -/
def retries : List SetHostCall :=
  [⟨none, none, .good none⟩, ⟨none, some (c_str "/effects"), .good (some (catalogue ["blur", "twist"]))⟩,
    ⟨none, some (c_str "/effects"), .good none⟩]

theorem OfxSetHost_once_retries :
    let t : MfxProxyPlugin 4 := ((MfxProxyPlugin.OfxSetHosts .reference retries).run (.create .reference)).1
    t.m_broker.starts ≤ 1 ∧ (t.loop_starts = [] ∨ t.loop_starts = [0]) ∧ t.m_effects.data.length = 2 ∧
    ∀ (i : ℕ) (e : MfxProxyEffect), t.m_effects.data[i]? = some e → e.m_effect_id.toNat = i := by
  obtain ⟨hstarts, hloops, hids, -⟩ := OfxSetHost_once (B := .reference)
    (t := ((MfxProxyPlugin.OfxSetHosts .reference retries).run (.create .reference : MfxProxyPlugin 4)).1)
    .reference retries _ (by decide +kernel) rfl
  exact ⟨hstarts, hloops, by decide +kernel, hids⟩

/-! ## The first call that reaches the loop -/

/-- After earlier calls that have not reached the defining loop and left the plugin in
`s`, the call `c` reaches it, and ends in `t`. -/
structure FirstReach (B : Build) (api : PluginApi) (earlier : List SetHostCall) (c : SetHostCall)
    (s t : MfxProxyPlugin max) (r : Except Fault OfxStatus) : Prop where
  before : (MfxProxyPlugin.OfxSetHosts B earlier).run (MfxProxyPlugin.create api) = (s, .ok ())
  not_reached : s.loop_starts = []
  call : (MfxProxyPlugin.OfxSetHost B c.host c.bundle_dir c.env).run s = (t, r)
  reached : t.loop_starts ≠ []

/-- Such a call ends as the loop does, on the definition of its handshake. -/
theorem FirstReach.loop {api : PluginApi} {earlier : List SetHostCall} {c : SetHostCall}
    {r : Except Fault OfxStatus} (h : FirstReach B api earlier c s t r) :
    ∃ d s₀, c.env.definition = some d ∧ Started (gOfxPlugins api max) s₀ ∧
      (MfxProxyPlugin.defineEffects B d >>= fun _ => pure kOfxStatOK).run s₀ = (t, r) := by
  have hs := session_idle.of_ok (Or.inl (fresh_create.idle)) h.before
  have hidle : Idle (gOfxPlugins api max) s := by
    rcases hs with hs | hs
    · exact hs
    · exact absurd h.not_reached hs.1
  cases hpub : s.m_broker.pub_bound with
  | true =>
    -- a bound plugin fails before the loop
    obtain ⟨host', dir', hrun⟩ := OfxSetHost_bound B c.env c.host c.bundle_dir hpub
    rw [h.call] at hrun
    cases hrun
    exact absurd h.not_reached h.reached
  | false =>
    have hends : CallEnds B (gOfxPlugins api max) c.env r t := by
      have hcall := OfxSetHost_fresh B c.env c.host c.bundle_dir s (hidle.fresh hpub)
      rw [h.call] at hcall
      cases r <;> exact hcall
    rcases hends with ⟨hidle', -⟩ | ⟨d, s₀, hd, hs₀, -, hrun⟩
    · exact absurd hidle'.loop_starts h.reached
    · exact ⟨d, s₀, hd, hs₀, hrun⟩

end MfxProxy
