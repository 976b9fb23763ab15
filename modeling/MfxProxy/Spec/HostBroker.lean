import MfxProxy.Spec.Message

/-!
# The host broker's `RemoteHostStarted`

What `MfxProxyHostBroker::broker_thread_main` sends first: the catalogue of the effect
library that the host process has loaded. The broker's main loop is in `systemStep`.
-/

namespace MfxProxy

/-- What the broker reads of an effect of the library. -/
structure LibraryEffect where
  effectIdentifier : Option CStr
  effectVersionMajor : UInt32
  effectVersionMinor : UInt32
  deriving DecidableEq

/-- `OpenMfx::EffectLibrary`, whose `effectCount()` is an `int`. -/
structure EffectLibrary where
  effects : List LibraryEffect
  count_fits : effects.length < 2 ^ 31

/-- `CreateOfxPluginDirect` in round `i` of the loop: a null identifier leaves the field
absent. -/
def writePlugin (i : ℕ) (e : LibraryEffect) : FbOfxPlugin where
  effect_id := Int32.ofNat i
  identifier := e.effectIdentifier.map CStr.str
  version_major := e.effectVersionMajor.toInt32
  version_minor := e.effectVersionMinor.toInt32

/-- The table that `CreateRemoteHostStartedDirect` builds. -/
def EffectLibrary.remoteHostStarted (library : EffectLibrary) : RemoteHostStarted :=
  let plugins := library.effects.mapIdx writePlugin
  -- the count is the size of the vector that is sent, not `effectCount()`
  { number_of_plugins := Int32.ofNat plugins.length
    plugins := some plugins }

/-- The message that `broker_thread_main` sends first. -/
def EffectLibrary.firstMessage (P : Platform) (library : EffectLibrary) : Bytes :=
  P.make_message .RemoteHostStarted library.remoteHostStarted 0 0 0

end MfxProxy
