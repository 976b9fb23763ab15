import MfxProxy.Lib.Prog
import MfxProxy.Spec.Basic
import MfxProxy.Spec.Schema

/-!
# `MfxProxyEffect::Describe`, after its reply has arrived

The replay of the parameters and inputs of an `ActionDescribeEnd` on the host's suites.
The state is the log of the suite calls with the status each of them returned; `Suites`
is the host, whose answers may depend on all calls so far. A call that fails does not
write its output handle, so a handle variable is `none` until it is written.

FlatBuffers returns null for an absent field, and reading through it is undefined. What
the replay writes to the log file is left out, the reads of the reply it makes for it
are not.
-/

namespace MfxProxy

open Lib

def kOfxPropName : String := "OfxPropName"
def kOfxParamPropType : String := "OfxParamPropType"

/-! ## The host's suites -/

/-- A call of `meshEffectSuite`, `parameterSuite` or `propertySuite`. A null string is
`none`, and so is a handle that was never written. -/
inductive SuiteCall
  | getParamSet (descriptor : ℕ)
  | paramDefine (paramSet : Option ℕ) (paramType name : Option CStr)
  | inputDefine (descriptor : ℕ) (name label : Option CStr)
  | propSetInt (properties : Option ℕ) (property : CStr) (index : ℕ) (value : Int32)
  | propSetDouble (properties : Option ℕ) (property : CStr) (index : ℕ) (value : UInt64)
  | propSetString (properties : Option ℕ) (property : CStr) (index : ℕ) (value : CStr)
  deriving DecidableEq

/-- The calls made so far and how the host answered them. -/
abbrev SuiteLog := List (SuiteCall × OfxStatus)

/-- A host: the status of a call, and the handle it writes if it succeeds. -/
structure Suites where
  status : SuiteLog → SuiteCall → OfxStatus
  handle : SuiteLog → SuiteCall → ℕ

namespace Suites

/-- Code that calls the suites. -/
abbrev Code := Prog SuiteLog Fault

variable (S : Suites)

def call (c : SuiteCall) : Code OfxStatus := do
  let log ← Prog.get
  Prog.modify (· ++ [(c, S.status log c)])
  return S.status log c

/-- A call with an output handle. -/
def callOut (c : SuiteCall) : Code (OfxStatus × Option ℕ) := do
  let log ← Prog.get
  let status ← S.call c
  return (status, if status = kOfxStatOK then some (S.handle log c) else none)

/-- A branch of `prop_set_from_flatbuffer`: one call for each element of the vector that
the value's table holds. -/
def setValues {α β : Type} (value : Option α) (values : α → Option (List β)) (set : ℕ → β → SuiteCall) :
    Code Unit := do
  let value ← Prog.lift (deref value)
  let values ← Prog.lift (deref (values value))
  Prog.forEach (fun (v, i) => do
    let status ← S.call (set i v)
    Prog.lift (MFX_ENSURE status)) values.zipIdx

def prop_set_from_flatbuffer (props : Option ℕ) (property : OfxProperty) : Code OfxStatus := do
  let name ← Prog.lift (deref property.name)
  let propName := c_str name
  match property.value with
  | .OfxPropertyIntNValue value => S.setValues value (·.values) (.propSetInt props propName)
  | .OfxPropertyFloatNValue value => S.setValues value (·.values) (.propSetDouble props propName)
  | .OfxPropertyStringNValue value =>
    S.setValues value (·.values) fun i v => .propSetString props propName i (c_str v)
  -- the `default` of the `switch` only logs
  | .NONE | .OfxPropertyPointerValue _ => pure ()
  return kOfxStatOK

/-! ## The replay -/

/-- One round of the loop that looks for `paramName` and `paramType`. -/
def findParamName (found : Option CStr × Option CStr) (property : OfxProperty) :
    Except Fault (Option CStr × Option CStr) := do
  let name ← deref property.name
  -- what is kept is the name of the property, not its value
  if name = kOfxPropName then return (some (c_str name), found.2)
  else if name = kOfxParamPropType then return (found.1, some (c_str name))
  else return found

/-- One round of the loop that looks for `inputName`. -/
def findInputName (found : Option CStr) (property : OfxProperty) : Except Fault (Option CStr) := do
  let name ← deref property.name
  if name = kOfxPropName then return some (c_str name)
  else return found

/-- One round of the loop over the properties of an item, which leaves out those whose
name is in `skip`. -/
def replayProperty (skip : List String) (props : Option ℕ) (property : OfxProperty) : Code Unit := do
  let name ← Prog.lift (deref property.name)
  -- already set by `paramDefine` or `inputDefine`
  if name ∈ skip then return ()
  else do
    let status ← S.prop_set_from_flatbuffer props property
    Prog.lift (MFX_ENSURE status)

/-- One round of the loop over the received parameters. -/
def replayParameter (ndebug : Bool) (ofx_parameters : Option ℕ) (parameter : OfxParameter) : Code Unit := do
  let properties ← Prog.lift (deref parameter.properties)
  let (paramName, paramType) ← Prog.lift (properties.foldlM findParamName (none, none))
  Prog.lift (cassert ndebug (paramName.isSome = true))
  Prog.lift (cassert ndebug (paramType.isSome = true))
  -- the status is not checked: on a failure the handle stays unwritten
  let (_, ofx_param_props) ← S.callOut (.paramDefine ofx_parameters paramType paramName)
  Prog.forEach (S.replayProperty [kOfxPropName, kOfxParamPropType] ofx_param_props) properties

/-- One round of the loop over the received inputs. -/
def replayInput (ndebug : Bool) (descriptor : ℕ) (input : OfxMesh) : Code Unit := do
  let properties ← Prog.lift (deref input.properties)
  let inputName ← Prog.lift (properties.foldlM findInputName none)
  Prog.lift (cassert ndebug (inputName.isSome = true))
  let (_, ofx_input_props) ← S.callOut (.inputDefine descriptor inputName none)
  -- the size of the attributes is read for a warning only
  let _ ← Prog.lift (deref input.attributes)
  Prog.forEach (S.replayProperty [kOfxPropName] ofx_input_props) properties

/-- `Describe`, from the received `ActionDescribeEnd` on. -/
def replayDescribe (ndebug : Bool) (descriptor : ℕ) (action : ActionDescribeEnd) : Code OfxStatus := do
  let status ← Prog.lift (deref action.status)
  Prog.lift (MFX_ENSURE status.status)
  -- replay received parameters
  let (_, ofx_parameters) ← S.callOut (.getParamSet descriptor)
  let parameters ← Prog.lift (deref action.parameters)
  Prog.forEach (S.replayParameter ndebug ofx_parameters) parameters
  -- replay received inputs
  let inputs ← Prog.lift (deref action.inputs)
  Prog.forEach (S.replayInput ndebug descriptor) inputs
  return status.status

end Suites

end MfxProxy
