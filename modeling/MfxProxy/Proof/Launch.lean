import MfxProxy.Proof.Handshake
import MfxProxy.Spec.Launch

/-!
# What starting both processes up can come to

* `OfxSetHost_eq`: `OfxSetHost` is its launch, and then the effects.
* `Startup.Moves`: what an event does.
* `Explained`: what the states of a run have to do with `OfxSetHost` as a whole.
* `startup_outcomes`: the results of the two processes are exactly those of `OfxSetHost` with
  nothing for its definition, or one that the host process can send.
-/

namespace MfxProxy

open Lib

variable {max : ℕ} {P : Platform} {B : Build} {H : HostEnv} {host : Option Addr} {bundle_dir : Option CStr}
  {env : SetHostEnv} {d : BrokerPluginBundleDefinition}

/-! ## `OfxSetHost` in two parts -/

/-- **The launch, and then the effects.** -/
theorem OfxSetHost_eq : (MfxProxyPlugin.OfxSetHost B host bundle_dir env : MfxProxyPlugin.Code max OfxStatus) =
    MfxProxyPlugin.launch host bundle_dir env >>= fun
      | .inl status => pure status
      | .inr _ => MfxProxyPlugin.setupEffects B env := by
  unfold MfxProxyPlugin.OfxSetHost MfxProxyPlugin.launch MfxProxyPlugin.setupEffects
  rw [bind_assoc]
  congr 1
  funext _
  cases bundle_dir with
  | none => rfl
  | some dir =>
    simp only
    rw [bind_assoc]
    congr 1
    funext _
    rw [bind_assoc]
    congr 1
    funext r
    cases r with
    | error f => rfl
    | ok u =>
      simp only
      rw [bind_assoc]
      congr 1
      funext _
      cases env.config_exists with
      | false => rfl
      | true =>
        cases env.plugin_path with
        | none => rfl
        | some plugin_path =>
          cases env.host_exists with
          | false => rfl
          | true =>
            cases env.launch with
            | false => rfl
            | true => rfl

/-- What a launch passes to the host process. -/
theorem launch_argv {p q : MfxProxyPlugin max} {argv : List String}
    (h : (MfxProxyPlugin.launch host bundle_dir env).run p = (q, .ok (.inr argv))) :
    ∃ name plugin_path, argv = [name, plugin_path, q.m_broker.m_pair_address] ∧ env.plugin_path = some plugin_path := by
  have htriple : Prog.Triple (fun _ : MfxProxyPlugin max => True) (MfxProxyPlugin.launch host bundle_dir env)
      (fun r q => ∀ argv, r = .inr argv → ∃ name plugin_path,
        argv = [name, plugin_path, q.m_broker.m_pair_address] ∧ env.plugin_path = some plugin_path)
      (fun _ _ => True) := by
    have hany : ∀ {α : Type} (x : MfxProxyPlugin.Code max α),
        Prog.Triple (fun _ => True) x (fun _ _ => True) (fun _ _ => True) := by
      intro α x s _
      split <;> trivial
    have hearly : ∀ status, Prog.Triple (fun _ : MfxProxyPlugin max => True) (pure (.inl status))
        (fun (r : OfxStatus ⊕ List String) q => ∀ argv, r = .inr argv → ∃ name plugin_path,
          argv = [name, plugin_path, q.m_broker.m_pair_address] ∧ env.plugin_path = some plugin_path)
        (fun (_ : Fault) _ => True) := by
      intro status
      exact Prog.triple_pure fun _ _ argv h => by cases h
    refine Prog.Triple.bind (hany _) fun _ => ?_
    cases bundle_dir with
    | none => exact hearly _
    | some dir =>
      refine Prog.Triple.bind (hany _) fun _ => Prog.Triple.attempt_bind (hany _) (fun _ => ?_) fun _ => hearly _
      refine Prog.Triple.bind (hany _) fun _ => Prog.triple_ite (fun _ => hearly _) fun _ => ?_
      split
      · exact hearly _
      · rename_i plugin_path hpath
        refine Prog.triple_ite (fun _ => hearly _) fun _ => Prog.triple_ite (fun _ => ?_) fun _ => ?_
        · exact Prog.triple_throw fun _ _ => trivial
        · refine Prog.triple_get_bind fun s _ => Prog.triple_pure ?_
          rintro t rfl argv ⟨⟩
          exact ⟨_, _, rfl, hpath⟩
  exact htriple.of_ok trivial h argv rfl

/-- The host's `main` comes to its loop with what `getLibrary` returns, or ends. -/
theorem main_eq (name plugin_path pair_address : String) :
    RemoteProxyHost.main H [name, plugin_path, pair_address] =
      if H.bind_pub = true ∧ H.bind_sub = true ∧ H.connect = true then
        match H.getLibrary plugin_path with
        | .ok library => .running ⟨pair_address, library⟩
        | .error f => if f.fatal then .ended f else .exited 1
      else .exited 1 := by
  unfold RemoteProxyHost.main MfxProxyHost.set_remote_plugin_pair_address MfxProxyHost.setup_sockets
  cases H.bind_pub with
  | false => rfl
  | true =>
    cases H.bind_sub with
    | false => rfl
    | true =>
      cases H.connect with
      | false => rfl
      | true =>
        unfold MfxProxyHost.set_plugin
        dsimp only
        cases H.getLibrary plugin_path with
        | ok library => rfl
        | error f => rfl

theorem main_ne_launched {argv argv' : List String} : RemoteProxyHost.main H argv ≠ .launched argv' := by
  unfold RemoteProxyHost.main
  split
  · simp only
    split
    · exact nofun
    · split
      · exact nofun
      · exact nofun
  · exact nofun

/-- The host process gets as far as its broker's thread. -/
theorem main_running {argv : List String} {x : MfxProxyHost} (h : RemoteProxyHost.main H argv = .running x) :
    (H.bind_pub = true ∧ H.bind_sub = true ∧ H.connect = true) ∧ ∃ name plugin_path,
      argv = [name, plugin_path, x.m_pair_address] ∧ H.getLibrary plugin_path = .ok x.m_ofx_library := by
  have hargv : ∃ name plugin_path pair_address, argv = [name, plugin_path, pair_address] := by
    unfold RemoteProxyHost.main at h
    split at h
    · exact ⟨_, _, _, rfl⟩
    · cases h
  obtain ⟨name, plugin_path, pair_address, rfl⟩ := hargv
  rw [main_eq] at h
  split at h
  · rename_i hbinds
    split at h
    · rename_i library hlibrary
      cases h
      exact ⟨hbinds, name, plugin_path, rfl, hlibrary⟩
    · split at h <;> cases h
  · cases h

/-! ## What an event does -/

/-- The definition of the handshake comes after the launch. -/
theorem launch_definition (o : Option BrokerPluginBundleDefinition) :
    (MfxProxyPlugin.launch host bundle_dir { env with definition := o } :
      MfxProxyPlugin.Code max (OfxStatus ⊕ List String)) = MfxProxyPlugin.launch host bundle_dir env := rfl

namespace Startup

/-- What an event of a `Startup` does. -/
inductive Moves (P : Platform) (B : Build) (H : HostEnv) (host : Option Addr) (bundle_dir : Option CStr)
    (env : SetHostEnv) (s : Startup max) : StartupEvent → Startup max → Prop
  | launched {q : MfxProxyPlugin max} {argv : List String} (outside : s.call = .outside)
      (run : (MfxProxyPlugin.launch host bundle_dir env).run s.plugin = (q, .ok (.inr argv))) :
      Moves P B H host bundle_dir env s .launch { s with plugin := q, call := .waiting, host := .launched argv }
  | early {q : MfxProxyPlugin max} {status : OfxStatus} (outside : s.call = .outside)
      (run : (MfxProxyPlugin.launch host bundle_dir env).run s.plugin = (q, .ok (.inl status))) :
      Moves P B H host bundle_dir env s .launch (s.finish q (.ok status))
  | threw {q : MfxProxyPlugin max} {f : Fault} (outside : s.call = .outside)
      (run : (MfxProxyPlugin.launch host bundle_dir env).run s.plugin = (q, .error f)) :
      Moves P B H host bundle_dir env s .launch (s.finish q (.error f))
  | main {argv : List String} (launched : s.host = .launched argv) :
      Moves P B H host bundle_dir env s .main { s with host := RemoteProxyHost.main H argv }
  | sent {x : MfxProxyHost} {library : EffectLibrary} (running : s.host = .running x)
      (loaded : x.m_ofx_library = some library) :
      Moves P B H host bundle_dir env s .sendFirst { s with
        host := .looping x
        pair_socket := s.pair_socket ++
          if x.m_pair_address = s.plugin.m_broker.m_pair_address then [library.firstMessage P] else [] }
  | unsent {x : MfxProxyHost} {f : Fault} (running : s.host = .running x) :
      Moves P B H host bundle_dir env s .sendFirst { s with host := .ended f }
  | received {m : Bytes} {ms : List Bytes} {d : BrokerPluginBundleDefinition} (receiving : s.broker = .receiving)
      (waiting : s.pair_socket = m :: ms) (alive : s.fault = none) (read : receiveDefinition P m = .ok d) :
      Moves P B H host bundle_dir env s .receiveFirst { s with broker := .built d, pair_socket := ms }
  | faulted {m : Bytes} {ms : List Bytes} {f : Fault} (receiving : s.broker = .receiving)
      (waiting : s.pair_socket = m :: ms) (alive : s.fault = none) (read : receiveDefinition P m = .error f) :
      Moves P B H host bundle_dir env s .receiveFirst { s with pair_socket := ms, fault := some f }
  | published {d : BrokerPluginBundleDefinition} {ev : HandshakeEvent} {h : Handshake} (built : s.broker = .built d)
      (publisher : ev.isPublisher = true) (alive : s.fault = none) (step : handshakeStep d s.handshake ev = some h) :
      Moves P B H host bundle_dir env s (.publish ev) { s with handshake := h }
  | waited {ev : HandshakeEvent} {h : Handshake} (waiting : s.call = .waiting) (caller : ev.isPublisher = false)
      (alive : s.fault = none) (step : handshakeStep ⟨0, []⟩ s.handshake ev = some h) :
      Moves P B H host bundle_dir env s (.wait ev) { s with handshake := h }
  | effects {result : Option BrokerPluginBundleDefinition} {timeout : Bool} {q : MfxProxyPlugin max}
      {r : Except Fault OfxStatus} (waiting : s.call = .waiting)
      (returned : s.handshake.caller = .returned result timeout) (alive : s.fault = none)
      (run : (MfxProxyPlugin.setupEffects B { env with definition := result }).run s.plugin = (q, r)) :
      Moves P B H host bundle_dir env s .setupEffects (s.finish q r)
  | terminated (called : s.call ≠ .outside) (alive : s.fault = none) :
      Moves P B H host bundle_dir env s (.throws .plugin) { s with fault := some .terminate }
  | hostTerminated (started : s.host ≠ .absent) :
      Moves P B H host bundle_dir env s (.throws .host) { s with host := .ended .terminate }

variable {s t u p : Startup max} {ev : StartupEvent}

theorem moves_of_step (h : startupStep P B H host bundle_dir env s ev = some t) :
    Moves P B H host bundle_dir env s ev t := by
  cases ev with
  | launch =>
    simp only [startupStep] at h
    split at h
    · rename_i houtside
      split at h
      · rename_i q argv hrun
        cases h
        exact .launched houtside hrun
      · rename_i q status hrun
        cases h
        exact .early houtside hrun
      · rename_i q f hrun
        cases h
        exact .threw houtside hrun
    · cases h
  | main =>
    simp only [startupStep] at h
    split at h
    · rename_i argv hlaunched
      cases h
      exact .main hlaunched
    · cases h
  | sendFirst =>
    simp only [startupStep] at h
    split at h
    · rename_i x hrunning
      split at h
      · rename_i library hlibrary
        cases h
        have hloaded : x.m_ofx_library = some library := by
          unfold MfxProxyHost.library at hlibrary
          cases hx : x.m_ofx_library with
          | none =>
            rw [hx] at hlibrary
            cases hnd : B.ndebug <;> simp [cassert, deref, hnd, bind, Except.bind] at hlibrary
          | some l =>
            rw [hx] at hlibrary
            simp [cassert, deref, bind, Except.bind] at hlibrary
            rw [hlibrary]
        exact .sent hrunning hloaded
      · cases h
        exact .unsent hrunning
    · cases h
  | receiveFirst =>
    simp only [startupStep] at h
    split at h
    · rename_i m ms hreceiving hwaiting
      split at h
      · rename_i halive
        split at h
        · rename_i d hread
          cases h
          exact .received hreceiving hwaiting halive hread
        · rename_i f hread
          cases h
          exact .faulted hreceiving hwaiting halive hread
      · cases h
    · cases h
  | publish ev =>
    simp only [startupStep] at h
    split at h
    · rename_i d hbuilt
      split at h
      · rename_i hev
        obtain ⟨x, hx, rfl⟩ := Option.map_eq_some_iff.mp h
        exact .published hbuilt hev.1 hev.2 hx
      · cases h
    · cases h
  | wait ev =>
    simp only [startupStep] at h
    split at h
    · rename_i hwaiting
      split at h
      · rename_i hev
        obtain ⟨x, hx, rfl⟩ := Option.map_eq_some_iff.mp h
        exact .waited hwaiting (by simpa using hev.1) hev.2 hx
      · cases h
    · cases h
  | setupEffects =>
    simp only [startupStep] at h
    split at h
    · rename_i result timeout hwaiting hreturned
      split at h
      · rename_i halive
        cases h
        exact .effects hwaiting hreturned halive rfl
      · cases h
    · cases h
  | throws p =>
    cases p with
    | plugin =>
      simp only [startupStep] at h
      split at h
      · cases h
      · rename_i hcalled
        rw [Option.ite_none_right_eq_some] at h
        obtain ⟨⟨-, halive⟩, h⟩ := h
        cases h
        exact .terminated hcalled halive
    | host =>
      simp only [startupStep] at h
      split at h
      · rename_i x hrunning
        cases h
        exact .hostTerminated (by rw [hrunning]; exact nofun)
      · rename_i x hlooping
        cases h
        exact .hostTerminated (by rw [hlooping]; exact nofun)
      · cases h

/-! ## What a call has come to -/

/-- A publishing event leaves the call where it is. -/
theorem publisher_caller {x y : Handshake} {ev : HandshakeEvent} (hev : ev.isPublisher = true)
    (h : handshakeStep d x ev = some y) :
    y.caller = x.caller ∧ (y.m_plugin_definition = x.m_plugin_definition ∨ y.m_plugin_definition = some d) := by
  cases ev with
  | publisherLock | publisherUnlock =>
    simp only [handshakeStep, Option.ite_none_right_eq_some, Option.map_eq_some_iff] at h
    obtain ⟨-, m, -, rfl⟩ := h
    exact ⟨rfl, Or.inl rfl⟩
  | swap =>
    simp only [handshakeStep, Option.ite_none_right_eq_some, Option.some.injEq] at h
    obtain ⟨-, rfl⟩ := h
    exact ⟨rfl, Or.inr rfl⟩
  | notify_all =>
    simp only [handshakeStep, Option.ite_none_right_eq_some, Option.some.injEq] at h
    obtain ⟨-, rfl⟩ := h
    exact ⟨rfl, Or.inl rfl⟩
  | _ => cases hev

/-- The call reads what is published, and publishes nothing. -/
theorem caller_outcome {x y : Handshake} {ev : HandshakeEvent} (hev : ev.isPublisher = false)
    (h : handshakeStep d x ev = some y) : y.publisher = x.publisher ∧ y.m_plugin_definition = x.m_plugin_definition ∧
      (y.caller.outcome = x.caller.outcome ∨ ∃ timeout, y.caller.outcome = some (x.m_plugin_definition, timeout)) := by
  cases ev with
  | publisherLock | swap | notify_all | publisherUnlock => cases hev
  | callerLock =>
    simp only [handshakeStep, Option.ite_none_right_eq_some, Option.map_eq_some_iff] at h
    obtain ⟨hc, m, -, rfl⟩ := h
    refine ⟨rfl, rfl, Or.inl ?_⟩
    rw [hc]
    rfl
  | wait_for =>
    simp only [handshakeStep, Option.ite_none_right_eq_some, Option.map_eq_some_iff] at h
    obtain ⟨hc, m, -, rfl⟩ := h
    refine ⟨rfl, rfl, Or.inl ?_⟩
    rw [hc]
    rfl
  | wake =>
    simp only [handshakeStep, Option.map_eq_some_iff] at h
    obtain ⟨m, -, rfl⟩ := h
    exact ⟨rfl, rfl, Or.inl rfl⟩
  | deadline =>
    simp only [handshakeStep, Option.ite_none_right_eq_some, Option.some.injEq] at h
    obtain ⟨-, rfl⟩ := h
    exact ⟨rfl, rfl, Or.inl rfl⟩
  | relock =>
    simp only [handshakeStep, Option.ite_none_right_eq_some, Option.map_eq_some_iff] at h
    obtain ⟨-, m, -, rfl⟩ := h
    exact ⟨rfl, rfl, Or.inr ⟨_, rfl⟩⟩
  | callerUnlock =>
    simp only [handshakeStep] at h
    split at h
    · rename_i result timeout hc
      obtain ⟨m, -, rfl⟩ := Option.map_eq_some_iff.mp h
      refine ⟨rfl, rfl, Or.inl ?_⟩
      rw [hc]
      rfl
    · cases h

/-- **What has happened so far**, of a call on the plugin `p`. -/
structure Explained (P : Platform) (B : Build) (H : HostEnv) (host : Option Addr) (bundle_dir : Option CStr)
    (env : SetHostEnv) (p : MfxProxyPlugin max) (s : Startup max) : Prop where
  outside : s.call = .outside → s = { plugin := p }
  waiting : s.call = .waiting →
    ∃ argv, (MfxProxyPlugin.launch host bundle_dir env).run p = (s.plugin, .ok (.inr argv))
  ended : ∀ r, s.call = .ended r → ∃ o, (∀ d, o = some d → H.Offers P env d) ∧
    (MfxProxyPlugin.OfxSetHost B host bundle_dir { env with definition := o }).run p = (s.plugin, r)
  launched : ∀ argv, s.host = .launched argv →
    ∃ name plugin_path address, argv = [name, plugin_path, address] ∧ env.plugin_path = some plugin_path
  running : ∀ x library, s.host = .running x → x.m_ofx_library = some library → H.Loads env library
  sent : ∀ m ∈ s.pair_socket, ∃ library, H.Loads env library ∧ m = library.firstMessage P
  built : ∀ d, s.broker = .built d → H.Offers P env d
  published : ∀ d, s.handshake.m_plugin_definition = some d → H.Offers P env d
  read : ∀ d timeout, s.handshake.caller.outcome = some (some d, timeout) → H.Offers P env d

theorem explained_start (p : MfxProxyPlugin max) : Explained P B H host bundle_dir env p { plugin := p } where
  outside := fun _ => rfl
  waiting := by rintro ⟨⟩
  ended := by rintro r ⟨⟩
  launched := by rintro argv ⟨⟩
  running := by rintro x library ⟨⟩
  sent := by rintro m ⟨⟩
  built := by rintro d ⟨⟩
  published := by rintro d ⟨⟩
  read := by rintro d timeout ⟨⟩

variable {p : MfxProxyPlugin max}

theorem explained_step (hs : Explained P B H host bundle_dir env p s)
    (h : startupStep P B H host bundle_dir env s ev = some t) : Explained P B H host bundle_dir env p t := by
  obtain ⟨houtside, hwaiting, hended, hlaunched, hrunning, hsent, hbuilt, hpublished, hread⟩ := hs
  cases moves_of_step h with
  | @launched q argv outside run =>
    obtain rfl := houtside outside
    obtain ⟨name, plugin_path, rfl, hpath⟩ := launch_argv run
    refine ⟨by rintro ⟨⟩, fun _ => ⟨_, run⟩, by rintro r ⟨⟩, ?_, by rintro x library ⟨⟩, hsent, hbuilt, hpublished,
      hread⟩
    rintro argv ⟨⟩
    exact ⟨name, plugin_path, _, rfl, hpath⟩
  | early outside run =>
    obtain rfl := houtside outside
    refine ⟨by rintro ⟨⟩, by rintro ⟨⟩, ?_, hlaunched, hrunning, hsent, hbuilt, hpublished, hread⟩
    rintro r ⟨⟩
    refine ⟨none, by rintro d ⟨⟩, ?_⟩
    rw [OfxSetHost_eq, launch_definition, Prog.run_bind_ok run]
    rfl
  | threw outside run =>
    obtain rfl := houtside outside
    refine ⟨by rintro ⟨⟩, by rintro ⟨⟩, ?_, hlaunched, hrunning, hsent, hbuilt, hpublished, hread⟩
    rintro r ⟨⟩
    refine ⟨none, by rintro d ⟨⟩, ?_⟩
    rw [OfxSetHost_eq, launch_definition, Prog.run_bind_error run]
    rfl
  | main launched =>
    obtain ⟨name, plugin_path, address, rfl, hpath⟩ := hlaunched _ launched
    refine ⟨?_, hwaiting, hended, ?_, ?_, hsent, hbuilt, hpublished, hread⟩
    · intro outside
      rw [houtside outside] at launched
      cases launched
    · intro argv hargv
      have hmain : RemoteProxyHost.main H [name, plugin_path, address] = .launched argv := hargv
      exact absurd hmain main_ne_launched
    · intro x library hx hlibrary
      have hmain : RemoteProxyHost.main H [name, plugin_path, address] = .running x := hx
      obtain ⟨hbinds, name', plugin_path', hargv, hget⟩ := main_running hmain
      cases hargv
      exact ⟨hbinds, plugin_path, hpath, by rw [hget, hlibrary]⟩
  | sent running loaded =>
    refine ⟨?_, hwaiting, hended, by rintro argv ⟨⟩, by rintro x library ⟨⟩, ?_, hbuilt, hpublished, hread⟩
    · intro outside
      rw [houtside outside] at running
      cases running
    · intro m hm
      rcases List.mem_append.mp hm with hm | hm
      · exact hsent m hm
      · split at hm
        · exact ⟨_, hrunning _ _ running loaded, List.mem_singleton.mp hm⟩
        · cases hm
  | unsent running =>
    refine ⟨?_, hwaiting, hended, by rintro argv ⟨⟩, by rintro x library ⟨⟩, hsent, hbuilt, hpublished, hread⟩
    intro outside
    rw [houtside outside] at running
    cases running
  | @received m ms d receiving waiting alive read =>
    refine ⟨?_, hwaiting, hended, hlaunched, hrunning, ?_, ?_, hpublished, hread⟩
    · intro outside
      rw [houtside outside] at waiting
      cases waiting
    · intro m' hm'
      exact hsent m' (by rw [waiting]; exact List.mem_cons_of_mem _ hm')
    · rintro d' ⟨⟩
      obtain ⟨library, hloads, rfl⟩ := hsent m (by rw [waiting]; exact List.mem_cons_self)
      exact ⟨library, hloads, read⟩
  | @faulted m ms f receiving waiting alive read =>
    refine ⟨?_, hwaiting, hended, hlaunched, hrunning, ?_, hbuilt, hpublished, hread⟩
    · intro outside
      rw [houtside outside] at waiting
      cases waiting
    · intro m' hm'
      exact hsent m' (by rw [waiting]; exact List.mem_cons_of_mem _ hm')
  | published built publisher alive step =>
    obtain ⟨hcaller, hdefinition⟩ := publisher_caller publisher step
    refine ⟨?_, hwaiting, hended, hlaunched, hrunning, hsent, hbuilt, ?_, ?_⟩
    · intro outside
      rw [houtside outside] at built
      cases built
    · intro d' hd'
      rcases hdefinition with hsame | hnew
      · exact hpublished d' (hsame ▸ hd')
      · rw [show _ = some d' from hd'] at hnew
        cases hnew
        exact hbuilt _ built
    · rw [hcaller]
      exact hread
  | waited waiting caller alive step =>
    obtain ⟨-, hdefinition, houtcome⟩ := caller_outcome caller step
    refine ⟨?_, hwaiting, hended, hlaunched, hrunning, hsent, hbuilt, ?_, ?_⟩
    · intro outside
      rw [show s.call = _ from outside] at waiting
      cases waiting
    · rw [hdefinition]
      exact hpublished
    · intro d' timeout' hd'
      rcases houtcome with hsame | ⟨timeout, hnew⟩
      · exact hread d' timeout' (hsame ▸ hd')
      · rw [show _ = some (some d', timeout') from hd'] at hnew
        exact hpublished d' (congrArg Prod.fst (Option.some.inj hnew)).symm
  | @effects result timeout q r waiting returned alive run =>
    refine ⟨by rintro ⟨⟩, by rintro ⟨⟩, ?_, hlaunched, hrunning, hsent, hbuilt, hpublished, hread⟩
    rintro r' ⟨⟩
    obtain ⟨argv, hlaunch⟩ := hwaiting waiting
    refine ⟨result, ?_, ?_⟩
    · rintro d rfl
      exact hread d timeout (by rw [returned]; rfl)
    · rw [OfxSetHost_eq, launch_definition, Prog.run_bind_ok hlaunch]
      exact run
  | terminated called alive =>
    exact ⟨fun outside => (called outside).elim, hwaiting, hended, hlaunched, hrunning, hsent, hbuilt, hpublished,
      hread⟩
  | hostTerminated started =>
    refine ⟨?_, hwaiting, hended, by rintro argv ⟨⟩, by rintro x library ⟨⟩, hsent, hbuilt, hpublished, hread⟩
    intro outside
    rw [houtside outside] at started
    exact (started rfl).elim

/-! ## What a call can come to -/

theorem main_of_loads {library : EffectLibrary} {name plugin_path address : String} (h : H.Loads env library)
    (hpath : env.plugin_path = some plugin_path) :
    RemoteProxyHost.main H [name, plugin_path, address] = .running ⟨address, some library⟩ := by
  obtain ⟨⟨hpub, hsub, hconnect⟩, plugin_path', hpath', hget⟩ := h
  obtain rfl : plugin_path = plugin_path' := Option.some.inj (hpath.symm.trans hpath')
  rw [main_eq, if_pos ⟨hpub, hsub, hconnect⟩, hget]

theorem step_launch {q : MfxProxyPlugin max} {argv : List String}
    (h : (MfxProxyPlugin.launch host bundle_dir env).run p = (q, .ok (.inr argv))) :
    startupStep P B H host bundle_dir env { plugin := p } .launch =
      some { plugin := q, call := .waiting, host := .launched argv } := by
  simp only [startupStep, h]

/-- The wait that nothing ends but its deadline. -/
def lonelyWait : List StartupEvent :=
  [.wait .callerLock, .wait .wait_for, .wait .deadline, .wait .wake, .wait .relock, .wait .callerUnlock]

theorem exec_lonelyWait (q : MfxProxyPlugin max) (x : HostPhase) : ∃ y : Handshake,
    exec (startupStep P B H host bundle_dir env) { plugin := q, call := .waiting, host := x } lonelyWait =
      some { plugin := q, call := .waiting, host := x, handshake := y } ∧ y.caller = .returned none true :=
  ⟨_, rfl, rfl⟩

/-- The wait in which the definition is published. -/
def promptWait : List StartupEvent :=
  [.wait .callerLock, .wait .wait_for, .publish .publisherLock, .publish .swap, .publish .notify_all,
    .publish .publisherUnlock, .wait .relock, .wait .callerUnlock]

theorem exec_promptWait (q : MfxProxyPlugin max) (x : HostPhase) (d : BrokerPluginBundleDefinition) :
    ∃ y : Handshake, exec (startupStep P B H host bundle_dir env)
      { plugin := q, call := .waiting, broker := .built d, host := x } promptWait =
      some { plugin := q, call := .waiting, broker := .built d, host := x, handshake := y } ∧
      y.caller = .returned (some d) false :=
  ⟨_, rfl, rfl⟩

/-- The catalogue is sent. -/
theorem exec_sent (q : MfxProxyPlugin max) (name : String) {plugin_path : String} {library : EffectLibrary}
    (hpath : env.plugin_path = some plugin_path) (hloads : H.Loads env library) :
    ∃ x, exec (startupStep P B H host bundle_dir env)
      { plugin := q, call := .waiting, host := .launched [name, plugin_path, q.m_broker.m_pair_address] }
      [.main, .sendFirst] =
        some { plugin := q, call := .waiting, pair_socket := [library.firstMessage P], host := x } := by
  have hmain : RemoteProxyHost.main H [name, plugin_path, q.m_broker.m_pair_address] =
    .running ⟨q.m_broker.m_pair_address, some library⟩ := main_of_loads hloads hpath
  have hlibrary : MfxProxyHost.library B.ndebug ⟨q.m_broker.m_pair_address, some library⟩ = .ok library := by
    simp [MfxProxyHost.library, cassert, deref, bind, Except.bind]
  refine ⟨.looping ⟨q.m_broker.m_pair_address, some library⟩, ?_⟩
  refine exec_cons.2 ⟨{ plugin := q, call := .waiting, host := .running ⟨q.m_broker.m_pair_address, some library⟩ },
    ?_, exec_cons.2 ⟨_, ?_, exec_nil⟩⟩
  · simp only [startupStep, hmain]
  · simp only [startupStep, hlibrary, if_true, List.nil_append]

/-- The catalogue is received. -/
theorem step_receiveFirst {q : MfxProxyPlugin max} {x : HostPhase} {m : Bytes} (hread : receiveDefinition P m = .ok d) :
    startupStep P B H host bundle_dir env { plugin := q, call := .waiting, pair_socket := [m], host := x }
      .receiveFirst = some { plugin := q, call := .waiting, broker := .built d, host := x } := by
  simp only [startupStep, hread, if_true]

theorem step_setupEffects {s : Startup max} {q : MfxProxyPlugin max} {r : Except Fault OfxStatus}
    {result : Option BrokerPluginBundleDefinition} {timeout : Bool} (hcall : s.call = .waiting)
    (hreturned : s.handshake.caller = .returned result timeout) (halive : s.fault = none)
    (hrun : (MfxProxyPlugin.setupEffects B { env with definition := result }).run s.plugin = (q, r)) :
    startupStep P B H host bundle_dir env s .setupEffects = some (s.finish q r) := by
  simp only [startupStep, hcall, hreturned, hrun, if_pos halive]

/-- The run in which the definition is published while the call waits for it. -/
theorem exec_prompt {p q q' : MfxProxyPlugin max} {name plugin_path : String} {library : EffectLibrary}
    {r : Except Fault OfxStatus} (hlaunch : (MfxProxyPlugin.launch host bundle_dir env).run p =
      (q, .ok (.inr [name, plugin_path, q.m_broker.m_pair_address]))) (hpath : env.plugin_path = some plugin_path)
    (hloads : H.Loads env library) (hread : receiveDefinition P (library.firstMessage P) = .ok d)
    (hrun : (MfxProxyPlugin.setupEffects B { env with definition := some d }).run q = (q', r)) :
    ∃ evs s, exec (startupStep P B H host bundle_dir env) { plugin := p } evs = some (finish s q' r) := by
  obtain ⟨x, hsent⟩ : ∃ x, exec (startupStep P B H host bundle_dir env) _ _ = some _ := exec_sent q name hpath hloads
  obtain ⟨y, hwait, hreturned⟩ : ∃ y : Handshake, exec (startupStep P B H host bundle_dir env) _ promptWait =
    some _ ∧ y.caller = .returned (some d) false := exec_promptWait q x d
  refine ⟨.launch :: ([.main, .sendFirst] ++ .receiveFirst :: (promptWait ++ [.setupEffects])),
    { plugin := q, call := .waiting, broker := .built d, host := x, handshake := y }, ?_⟩
  refine exec_cons.2 ⟨_, step_launch hlaunch, exec_append.2 ⟨_, hsent, exec_cons.2 ⟨_, step_receiveFirst hread, ?_⟩⟩⟩
  refine exec_append.2 ⟨_, hwait, exec_cons.2 ⟨_, ?_, exec_nil⟩⟩
  exact step_setupEffects rfl hreturned rfl hrun

/-- **What a call of `OfxSetHost` can come to** when both processes start up: exactly what it comes
to if its wait returns nothing, or a definition that the host process can send. -/
theorem startup_outcomes {p q : MfxProxyPlugin max} {r : Except Fault OfxStatus} :
    (∃ evs u, exec (startupStep P B H host bundle_dir env) { plugin := p } evs = some u ∧
      u.call = .ended r ∧ u.plugin = q) ↔
    ∃ o, (∀ d, o = some d → H.Offers P env d) ∧
      (MfxProxyPlugin.OfxSetHost B host bundle_dir { env with definition := o }).run p = (q, r) := by
  constructor
  · rintro ⟨evs, u, hu, hcall, rfl⟩
    have hexplained := exec_inv (fun _ _ _ => explained_step) (explained_start p) hu
    exact hexplained.ended r hcall
  · rintro ⟨o, hoffers, hrun⟩
    rw [OfxSetHost_eq, launch_definition] at hrun
    rcases hlaunch : (MfxProxyPlugin.launch host bundle_dir env).run p with ⟨p', f | status | argv⟩
    · rw [Prog.run_bind_error hlaunch] at hrun
      cases hrun
      refine ⟨[.launch], finish { plugin := p } q (.error f), exec_cons.2 ⟨_, ?_, exec_nil⟩, rfl, rfl⟩
      simp only [startupStep, hlaunch]
    · rw [Prog.run_bind_ok hlaunch] at hrun
      cases hrun
      refine ⟨[.launch], finish { plugin := p } q (.ok status), exec_cons.2 ⟨_, ?_, exec_nil⟩, rfl, rfl⟩
      simp only [startupStep, hlaunch]
    · rw [Prog.run_bind_ok hlaunch] at hrun
      obtain ⟨name, plugin_path, rfl, hpath⟩ := launch_argv hlaunch
      cases o with
      | none =>
        let argv := [name, plugin_path, p'.m_broker.m_pair_address]
        obtain ⟨y, hwait, hreturned⟩ : ∃ y : Handshake, exec (startupStep P B H host bundle_dir env) _ lonelyWait =
          some _ ∧ y.caller = .returned none true := exec_lonelyWait p' (.launched argv)
        refine ⟨.launch :: (lonelyWait ++ [.setupEffects]),
          finish { plugin := p', call := .waiting, host := .launched argv, handshake := y } q r, ?_, rfl, rfl⟩
        refine exec_cons.2 ⟨_, step_launch hlaunch, exec_append.2 ⟨_, hwait, exec_cons.2 ⟨_, ?_, exec_nil⟩⟩⟩
        exact step_setupEffects rfl hreturned rfl hrun
      | some d =>
        obtain ⟨library, hloads, hread⟩ := hoffers d rfl
        obtain ⟨evs, s, hu⟩ := exec_prompt hlaunch hpath hloads hread hrun
        exact ⟨evs, _, hu, rfl, rfl⟩

end Startup

end MfxProxy
