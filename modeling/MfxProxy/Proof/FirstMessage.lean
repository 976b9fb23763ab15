import MfxProxy.Proof.Startup
import MfxProxy.Spec.Reference

/-!
# The first message at the plugin broker

`broker_thread_main` takes its first message as a complete `RemoteHostStarted` and copies
it into the definition that `OfxSetHost` waits for. It has no way to refuse it: an exception
on the broker thread ends the process, and so does an absent field that is read.

* `readDefinition_eq`: what the copy loop makes of a table.
* `firstMessage_iff`: the messages that are handled well.
-/

namespace MfxProxy

open Lib

variable {P : Platform} {message : Bytes} {data : RemoteHostStarted} {plugins : List FbOfxPlugin}

/-! ## What is to be shown -/

/-- The broker's copy of a plugin. -/
def copied (p : FbOfxPlugin) : BrokerPluginDefinition where
  effect_id := p.effect_id
  identifier := p.identifier.getD ""
  version_major := p.version_major
  version_minor := p.version_minor

/-- The message is a `RemoteHostStarted` with these plugins, each with its identifier. -/
structure CompleteStart (P : Platform) (message : Bytes) (data : RemoteHostStarted) (plugins : List FbOfxPlugin) :
    Prop where
  table : P.message_as .RemoteHostStarted message = .ok data
  vector : data.plugins = some plugins
  identifiers : ∀ p ∈ plugins, p.identifier ≠ none

/-- The broker has taken its first message and is in `t`. It has not ended; a complete message
with its number of plugins is published, and what is published is the copy of such a message;
otherwise nothing is published, and then `OfxSetHost` returns `kOfxStatFailed`. -/
structure HandledFirst (P : Platform) (message : Bytes) (t : PluginSide) : Prop where
  goes_on : ∀ f, t.phase ≠ .ended f
  published : ∀ data plugins, CompleteStart P message data plugins → data.number_of_plugins.toInt = plugins.length →
    t.m_plugin_definition = some ⟨data.number_of_plugins, plugins.map copied⟩
  copy : ∀ d, t.m_plugin_definition = some d → ∃ data plugins, CompleteStart P message data plugins ∧
    d.plugins = plugins.map copied ∧ d.number_of_plugins.toInt = d.plugins.length
  others : (¬ ∃ data plugins, CompleteStart P message data plugins) → t.m_plugin_definition = none
  refused : t.m_plugin_definition = none → ∀ (max : ℕ) (B : Build) (api : PluginApi) (c : SetHostCall),
    c.env.launch = true → c.env.definition = t.m_plugin_definition →
      ((MfxProxyPlugin.OfxSetHost B c.host c.bundle_dir c.env).run (.create api : MfxProxyPlugin max)).2 =
        .ok kOfxStatFailed

/-! ## The copy -/

theorem mapM_readPlugin_eq (l : List FbOfxPlugin) : l.mapM readPlugin =
    if ∀ p ∈ l, p.identifier ≠ none then .ok (l.map copied) else .error .undefined := by
  induction l with
  | nil => rfl
  | cons p l ih =>
    rw [List.mapM_cons, ih]
    cases hp : p.identifier with
    | none =>
      have hnot : ¬ ∀ q ∈ p :: l, q.identifier ≠ none := fun h => h p List.mem_cons_self hp
      rw [if_neg hnot, readPlugin, hp]
      rfl
    | some identifier =>
      have hread : readPlugin p = .ok (copied p) := by
        rw [readPlugin, copied, hp]
        rfl
      have hall : (∀ q ∈ p :: l, q.identifier ≠ none) ↔ ∀ q ∈ l, q.identifier ≠ none := by simp [hp]
      rw [hread, if_congr hall rfl rfl]
      by_cases hl : ∀ q ∈ l, q.identifier ≠ none
      · rw [if_pos hl, if_pos hl]
        rfl
      · rw [if_neg hl, if_neg hl]
        rfl

/-- **What the copy loop makes of a table.** -/
theorem readDefinition_eq (hplugins : data.plugins = some plugins) : readDefinition data =
    if ∀ p ∈ plugins, p.identifier ≠ none then .ok ⟨data.number_of_plugins, plugins.map copied⟩
    else .error .undefined := by
  rw [readDefinition, hplugins]
  show (List.mapM readPlugin plugins >>= fun l => _) = _
  rw [mapM_readPlugin_eq]
  by_cases h : ∀ p ∈ plugins, p.identifier ≠ none
  · rw [if_pos h, if_pos h]
    rfl
  · rw [if_neg h, if_neg h]
    rfl

/-- The definition is the copy of a complete message. -/
theorem receiveDefinition_eq_ok {d : BrokerPluginBundleDefinition} : receiveDefinition P message = .ok d ↔
    ∃ data plugins, CompleteStart P message data plugins ∧ d = ⟨data.number_of_plugins, plugins.map copied⟩ := by
  unfold receiveDefinition
  constructor
  · intro h
    cases hmsg : P.message_as .RemoteHostStarted message with
    | error f =>
      rw [hmsg] at h
      cases h
    | ok data =>
      rw [hmsg] at h
      cases hplugins : data.plugins with
      | none =>
        have hnone : readDefinition data = .error .undefined := by rw [readDefinition, hplugins]; rfl
        rw [show readDefinition data = .ok d from h] at hnone
        cases hnone
      | some plugins =>
        have hread : readDefinition data = .ok d := h
        rw [readDefinition_eq hplugins] at hread
        by_cases hids : ∀ p ∈ plugins, p.identifier ≠ none
        · rw [if_pos hids] at hread
          cases hread
          exact ⟨data, plugins, ⟨hmsg, hplugins, hids⟩, rfl⟩
        · rw [if_neg hids] at hread
          cases hread
  · rintro ⟨data, plugins, ⟨hmsg, hplugins, hids⟩, rfl⟩
    rw [hmsg]
    show readDefinition data = _
    rw [readDefinition_eq hplugins, if_pos hids]

/-! ## A call without a definition -/

/-- The broker thread has not been started, and nothing is published. -/
def Unstarted {max : ℕ} (s : MfxProxyPlugin max) : Prop :=
  s.m_broker.joinable = false ∧ s.m_broker.m_plugin_definition = none

theorem setup_sockets_unstarted {max : ℕ} {env : SetHostEnv} : Prog.Triple (fun s : MfxProxyPlugin max => Unstarted s)
    (MfxProxyPlugin.setup_sockets env) (fun _ => Unstarted) (fun _ => Unstarted) := by
  refine setup_sockets_triple (fun _ h _ => h) ?_
  rintro s t h ⟨sub, pair, rfl⟩
  exact ⟨h, h⟩

/-- **Without a definition, `OfxSetHost` fails.** -/
theorem OfxSetHost_unpublished {max : ℕ} {B : Build} {env : SetHostEnv} (host : Option Addr) (dir : Option CStr)
    (hlaunch : env.launch = true) (hnone : env.definition = none) :
    Prog.Triple (fun s : MfxProxyPlugin max => Unstarted s) (MfxProxyPlugin.OfxSetHost B host dir env)
      (fun status _ => status = kOfxStatFailed) (fun _ _ => False) := by
  refine Prog.Triple.bind (Q := fun _ => Unstarted) (Prog.triple_modify fun _ h => h) fun _ => ?_
  cases dir with
  | none => exact Prog.triple_pure fun _ _ => rfl
  | some dir =>
    refine Prog.Triple.bind (Q := fun _ => Unstarted) (Prog.triple_modify fun _ h => h) fun _ => ?_
    refine Prog.Triple.attempt_bind setup_sockets_unstarted (fun _ => ?_) fun _ =>
      Prog.triple_pure fun _ _ => rfl
    have hstart : Prog.Triple (fun s : MfxProxyPlugin max => Unstarted s) MfxProxyPlugin.start_thread
        (fun _ s => s.m_broker.m_plugin_definition = none) (fun _ _ => False) := by
      refine start_thread_triple (fun _ h _ => h.2) fun s hs hjoinable => ?_
      rw [hs.1] at hjoinable
      cases hjoinable
    refine hstart.bind fun _ => ?_
    refine Prog.triple_ite (fun _ => Prog.triple_pure fun _ _ => rfl) fun _ => ?_
    refine Prog.triple_ite (fun _ => Prog.triple_pure fun _ _ => rfl) fun _ => ?_
    refine Prog.triple_ite (fun _ => Prog.triple_pure fun _ _ => rfl) fun _ => ?_
    refine Prog.triple_ite (fun hnot => ?_) fun _ => ?_
    · rw [hlaunch] at hnot
      cases hnot
    -- the wait ends with nothing published
    have hdefinition : Prog.Triple (fun s : MfxProxyPlugin max => s.m_broker.m_plugin_definition = none)
        (MfxProxyPlugin.get_plugin_definition env) (fun r _ => r = none) (fun _ _ => False) := by
      refine get_plugin_definition_triple fun s h => ?_
      rw [h, hnone]
      rfl
    refine hdefinition.bind fun r => ?_
    cases r with
    | none => exact Prog.triple_pure fun _ _ => rfl
    | some d =>
      intro s h
      cases h

/-! ## The first message -/

/-- **Which first messages are handled well**: a `RemoteHostStarted` that has its plugins,
the identifier of each of them, and as many of them as it says. -/
theorem firstMessage_iff (effects : Finset UInt32) {s : PluginSide} {q : Fifo Bytes} (hphase : s.phase = .handshake)
    (htake : s.pairIn.take = some (message, q)) :
    (∃ t, pluginStep P effects s .receiveFirst = some t ∧ HandledFirst P message t) ↔
      ∃ data plugins, CompleteStart P message data plugins ∧ data.number_of_plugins.toInt = plugins.length := by
  cases hreceive : receiveDefinition P message with
  | error f =>
    -- the thread has ended
    have hstep : pluginStep P effects s .receiveFirst = some { s with pairIn := q, phase := .ended f } := by
      rw [pluginStep, if_pos hphase, PluginSide.recv, htake]
      simp [hreceive]
    rw [hstep]
    refine iff_of_false ?_ ?_
    · rintro ⟨t, ht, hhandled⟩
      cases ht
      exact hhandled.goes_on f rfl
    · rintro ⟨data, plugins, hstart, -⟩
      rw [receiveDefinition_eq_ok.2 ⟨data, plugins, hstart, rfl⟩] at hreceive
      cases hreceive
  | ok d =>
    have hstep : pluginStep P effects s .receiveFirst =
        some { s with pairIn := q, m_plugin_definition := some d, phase := .polling } := by
      rw [pluginStep, if_pos hphase, PluginSide.recv, htake]
      simp [hreceive]
    rw [hstep]
    constructor
    · rintro ⟨t, ht, hhandled⟩
      cases ht
      obtain ⟨-, -, -, -, hnumber⟩ := hhandled.copy d rfl
      obtain ⟨data, plugins, hstart, rfl⟩ := receiveDefinition_eq_ok.1 hreceive
      exact ⟨data, plugins, hstart, by simpa using hnumber⟩
    · rintro ⟨data, plugins, hstart, hnumber⟩
      obtain rfl : d = ⟨data.number_of_plugins, plugins.map copied⟩ := by
        rw [receiveDefinition_eq_ok.2 ⟨data, plugins, hstart, rfl⟩] at hreceive
        exact (Except.ok.inj hreceive).symm
      refine ⟨_, rfl, ⟨?_, ?_, ?_, fun h => absurd ⟨data, plugins, hstart⟩ h, ?_⟩⟩
      · intro f h
        cases h
      · intro data' plugins' hstart' _
        -- the message has one table, and the table one vector
        have hread := receiveDefinition_eq_ok.2 ⟨data', plugins', hstart', rfl⟩
        rw [hreceive] at hread
        exact congrArg some (Except.ok.inj hread)
      · rintro d ⟨⟩
        exact ⟨data, plugins, hstart, rfl, by simpa using hnumber⟩
      · intro hpublished max B api c hlaunch hdefinition
        obtain ⟨t, status, hrun, rfl⟩ := (OfxSetHost_unpublished (B := B) c.host c.bundle_dir hlaunch
          (hdefinition.trans hpublished)).returns (s := (.create api : MfxProxyPlugin max)) ⟨rfl, rfl⟩
        rw [hrun]

/-- The plugin side with a first message waiting on PAIR. -/
def waitingFirst (message : Bytes) : PluginSide where
  pairIn := { waiting := [message] }

/-- A `RemoteHostStarted` with one plugin, which says that there are `n`. -/
def startedWith (n : Int32) : Bytes :=
  Platform.reference.make_message .RemoteHostStarted ⟨n, some [⟨0, some "blur", 1, 0⟩]⟩ 0 0 0

theorem firstMessage_one : ∃ t, pluginStep .reference ∅ (waitingFirst (startedWith 1)) .receiveFirst = some t ∧
    HandledFirst .reference (startedWith 1) t :=
  (firstMessage_iff (P := .reference) ∅ (s := waitingFirst (startedWith 1)) rfl rfl).2
    ⟨⟨1, some [⟨0, some "blur", 1, 0⟩]⟩, [⟨0, some "blur", 1, 0⟩],
      ⟨Platform.message_as_make_message, rfl, by simp⟩, by decide⟩

/-- On a message of another type the broker thread ends by an exception, on a count that is
too large it publishes the count as it is, and on an absent vector it reads through a null
pointer. -/
theorem first_message_unhandled :
    (pluginStep .reference ∅ (waitingFirst (Platform.reference.make_message .ActionLoadEnd ⟨none⟩ 0 0 0))
      .receiveFirst).map (·.phase) = some (.ended .runtime_error) ∧
    (pluginStep .reference ∅ (waitingFirst (startedWith 2)) .receiveFirst).map (·.m_plugin_definition) =
      some (some ⟨2, [⟨0, "blur", 1, 0⟩]⟩) ∧
    (pluginStep .reference ∅ (waitingFirst (Platform.reference.make_message .RemoteHostStarted ⟨0, none⟩ 0 0 0))
      .receiveFirst).map (·.phase) = some (.ended .undefined) ∧
    ¬ ∃ t, pluginStep .reference ∅ (waitingFirst (startedWith 2)) .receiveFirst = some t ∧
      HandledFirst .reference (startedWith 2) t := by
  refine ⟨by decide +kernel, by decide +kernel, by decide +kernel, ?_⟩
  rintro ⟨t, ht, hhandled⟩
  have hpublished : t.m_plugin_definition = some ⟨2, [⟨0, "blur", 1, 0⟩]⟩ := by
    have hmap := congrArg (Option.map (·.m_plugin_definition)) ht
    exact (Option.some.inj (hmap.symm.trans (by decide +kernel)))
  obtain ⟨-, -, -, -, hnumber⟩ := hhandled.copy _ hpublished
  revert hnumber
  decide

end MfxProxy
