import MfxProxy.Lib.Exec
import MfxProxy.Lib.Prog
import MfxProxy.Spec.Basic
import Mathlib.Data.Finset.Erase
import Mathlib.Data.Finset.Insert
import Mathlib.Logic.Function.Basic

/-!
# Effect instances and their data

The instance actions of one `MfxProxyEffect` and its three accessors of
`kOfxPropInstanceData`, on a heap of `InstanceData` blocks and the host's property
suite. For each instance the suite returns the pointer last set, and leaves the output
pointer alone when none was set; the status it then returns is the parameter `unset`.

`instanceStep` is one call of `MainEntry`, whose lock serializes the actions. An
exception of the SDK's suites becomes the status of the action.
-/

namespace MfxProxy

open Lib

abbrev OfxMeshEffectHandle := ℕ

/-- A pointer that may be null. -/
abbrev Pointer := Option ℕ

structure InstanceData where
  instance_id : UInt32
  deriving DecidableEq

/-- The memory the instance actions work on. -/
structure InstanceMemory where
  /-- The blocks allocated by `new InstanceData`. -/
  heap : ℕ → Option InstanceData := fun _ => none
  /-- `kOfxPropInstanceData` of each instance, once it is set. -/
  props : OfxMeshEffectHandle → Option Pointer := fun _ => none
  /-- The blocks that have been deleted, in order. -/
  deleted : List ℕ := []

namespace InstanceMemory

/-- Code of the instance actions. -/
abbrev Code := Prog InstanceMemory Fault

/-- `propGetPointer(..., kOfxPropInstanceData, 0, &data)` -/
def propGetPointer (unset : OfxStatus) (inst : OfxMeshEffectHandle) (data : Pointer) :
    Code (OfxStatus × Pointer) := do
  let m ← Prog.get
  match m.props inst with
  | some p => return (kOfxStatOK, p)
  | none => return (unset, data)

def get_instance_data (unset : OfxStatus) (inst : OfxMeshEffectHandle) : Code Pointer := do
  let (_, data) ← propGetPointer unset inst none
  return data

def set_instance_data (inst : OfxMeshEffectHandle) (data : Pointer) : Code OfxStatus := do
  Prog.modify fun m => { m with props := Function.update m.props inst (some data) }
  return kOfxStatOK

/-- `delete p` -/
def delete : Pointer → Code Unit
  | none => pure ()
  | some a => do
    let m ← Prog.get
    -- a block that is not there has been deleted before
    if m.heap a = none then Prog.throw .undefined
    else Prog.modify fun m => { m with heap := Function.update m.heap a none, deleted := m.deleted ++ [a] }

def delete_instance_data (unset : OfxStatus) (inst : OfxMeshEffectHandle) : Code OfxStatus := do
  let (status, instance_data) ← propGetPointer unset inst none
  Prog.lift (MFX_ENSURE status)
  delete instance_data
  return kOfxStatOK

/-- `data->instance_id` -/
def instance_id (data : Pointer) : Code UInt32 := do
  let a ← Prog.lift (deref data)
  let m ← Prog.get
  let d ← Prog.lift (deref (m.heap a))
  return d.instance_id

def CreateInstance (_inst : OfxMeshEffectHandle) : Code OfxStatus := return kOfxStatOK

def DestroyInstance (unset : OfxStatus) (inst : OfxMeshEffectHandle) : Code OfxStatus := do
  let status ← delete_instance_data unset inst
  Prog.lift (MFX_ENSURE status)
  return kOfxStatOK

def Cook (unset : OfxStatus) (inst : OfxMeshEffectHandle) : Code OfxStatus := do
  let data ← get_instance_data unset inst
  -- the id is read and not used yet
  let _ ← instance_id data
  return kOfxStatFailed

def IsIdentity (unset : OfxStatus) (inst : OfxMeshEffectHandle) : Code OfxStatus := do
  let data ← get_instance_data unset inst
  let _ ← instance_id data
  return kOfxStatReplyDefault

end InstanceMemory

/-! ## Runs of actions -/

inductive InstanceAction
  | CreateInstance (inst : OfxMeshEffectHandle)
  | DestroyInstance (inst : OfxMeshEffectHandle)
  | Cook (inst : OfxMeshEffectHandle)
  | IsIdentity (inst : OfxMeshEffectHandle)
  deriving DecidableEq

/-- The instances of one effect, between two actions. -/
structure Instances where
  memory : InstanceMemory := {}
  /-- The instances created with `kOfxStatOK` and not destroyed. -/
  live : Finset OfxMeshEffectHandle := ∅
  /-- Set when an action has ended the process. -/
  ended : Option Fault := none

namespace Instances

/-- How `MainEntry` ends: a suite exception is returned as a status. -/
def finish (s : Instances) (after : OfxStatus → Finset OfxMeshEffectHandle) :
    InstanceMemory × Except Fault OfxStatus → Instances
  | (m, .ok status) => { memory := m, live := after status }
  | (m, .error (.suite status)) => { memory := m, live := after status }
  | (m, .error f) => { s with memory := m, ended := some f }

end Instances

/-- One action. The host uses an instance between its creation and its destruction, and
makes it with an empty property set. -/
def instanceStep (unset : OfxStatus) (s : Instances) (a : InstanceAction) : Option Instances :=
  if s.ended.isSome then none
  else match a with
  | .CreateInstance inst =>
    if inst ∈ s.live then none
    else some <| s.finish (fun status => if status = kOfxStatOK then insert inst s.live else s.live) <|
      -- the host hands out a new property set, whatever the handle was used for before
      (InstanceMemory.CreateInstance inst).run
        { s.memory with props := Function.update s.memory.props inst none }
  | .DestroyInstance inst =>
    if inst ∈ s.live then
      some <| s.finish (fun _ => s.live.erase inst) <|
        (InstanceMemory.DestroyInstance unset inst).run s.memory
    else none
  | .Cook inst =>
    if inst ∈ s.live then
      some <| s.finish (fun _ => s.live) <| (InstanceMemory.Cook unset inst).run s.memory
    else none
  | .IsIdentity inst =>
    if inst ∈ s.live then
      some <| s.finish (fun _ => s.live) <| (InstanceMemory.IsIdentity unset inst).run s.memory
    else none

end MfxProxy
