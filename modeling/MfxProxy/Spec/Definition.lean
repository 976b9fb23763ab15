import MfxProxy.Lib.Monitor
import MfxProxy.Spec.PluginBroker

/-!
# Waiting for the plugin definition

The broker thread publishes the definition of the handshake under
`m_plugin_definition_mutex` and notifies `m_plugin_definition_cv`;
`MfxProxyPluginBroker::get_plugin_definition` waits on the condition variable for
5000 ms and returns what is published then. The wait has no predicate: however it ends,
the call goes on.

Waits may end spuriously. The deadline is an event of its own, which can pass at any
time from the beginning of the wait until it returns. The state also records what a
statement about a run needs to know of its past: what was published when the call took
the lock, and when the deadline passed.
-/

namespace MfxProxy

open Lib

inductive DefinitionThread
  | broker
  | caller
  deriving DecidableEq

/-- Where the broker thread is in its publication. -/
inductive PublisherPhase
  /-- Before the block that publishes. -/
  | receiving
  /-- The `lock_guard` holds the mutex. -/
  | locked
  /-- After the `swap`. -/
  | swapped
  /-- After `notify_all`. -/
  | notified
  /-- The mutex is released. -/
  | published
  deriving DecidableEq

/-- Where `get_plugin_definition` is. -/
inductive CallerPhase
  | outside
  /-- The `unique_lock` holds the mutex. -/
  | locked
  /-- In `wait_for`: blocked, or about to lock again. -/
  | waiting
  /-- Out of `wait_for`, holding the mutex, with what it returns and whether it reports a
  timeout. -/
  | leaving (result : Option BrokerPluginBundleDefinition) (timeout : Bool)
  | returned (result : Option BrokerPluginBundleDefinition) (timeout : Bool)
  deriving DecidableEq

structure Handshake where
  monitor : Monitor DefinitionThread := {}
  publisher : PublisherPhase := .receiving
  m_plugin_definition : Option BrokerPluginBundleDefinition := none
  caller : CallerPhase := .outside
  /-- A definition was published when the call took the lock. -/
  publishedFirst : Bool := false
  /-- The deadline has passed; whether a definition was published then. -/
  deadline : Option Bool := none

inductive HandshakeEvent
  | publisherLock
  | swap
  | notify_all
  | publisherUnlock
  | callerLock
  | wait_for
  /-- A notification apart, the wait ends: spuriously, or because the deadline has passed. -/
  | wake
  | deadline
  /-- `wait_for` returns with the mutex, and the published definition is read. -/
  | relock
  | callerUnlock
  deriving DecidableEq

/-- One event, where the broker publishes `d`. -/
def handshakeStep (d : BrokerPluginBundleDefinition) (s : Handshake) : HandshakeEvent → Option Handshake
  | .publisherLock =>
    if s.publisher = .receiving then
      (s.monitor.lock .broker).map fun m => { s with monitor := m, publisher := .locked }
    else none
  | .swap =>
    if s.publisher = .locked then some { s with m_plugin_definition := some d, publisher := .swapped } else none
  | .notify_all =>
    if s.publisher = .swapped then some { s with monitor := s.monitor.notify_all, publisher := .notified } else none
  | .publisherUnlock =>
    if s.publisher = .notified then
      (s.monitor.unlock .broker).map fun m => { s with monitor := m, publisher := .published }
    else none
  | .callerLock =>
    if s.caller = .outside then
      (s.monitor.lock .caller).map fun m =>
        { s with monitor := m, caller := .locked, publishedFirst := s.m_plugin_definition.isSome }
    else none
  | .wait_for =>
    if s.caller = .locked then
      (s.monitor.wait .caller).map fun m => { s with monitor := m, caller := .waiting }
    else none
  | .wake => (s.monitor.wake .caller).map fun m => { s with monitor := m }
  | .deadline =>
    -- from the start of the wait to its return, blocked or not
    if s.caller = .waiting ∧ s.deadline = none then
      some { s with deadline := some s.m_plugin_definition.isSome }
    else none
  -- no predicate is tested: whoever has woken up goes on
  | .relock =>
    if s.caller = .waiting then
      (s.monitor.lock .caller).map fun m =>
        { s with monitor := m, caller := .leaving s.m_plugin_definition s.deadline.isSome }
    else none
  | .callerUnlock =>
    match s.caller with
    | .leaving result timeout =>
      (s.monitor.unlock .caller).map fun m => { s with monitor := m, caller := .returned result timeout }
    | _ => none

end MfxProxy
