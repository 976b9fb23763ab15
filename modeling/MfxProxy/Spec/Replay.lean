import MfxProxy.Lib.Script
import MfxProxy.Spec.Describe

/-!
# What a reply to `Describe` asks for

An `ActionDescribeEnd` read as a script: the suite calls to be made for it, in order, and
the fault that the script ends with where a field is absent or an assertion fails. The
calls refer to the two handles of the replay, the parameter set and the property set of
the current item, through `Replay`. Of the calls only those that set a property are
checked.
-/

namespace MfxProxy

open Lib

/-! ## Calls on a host -/

/-- A suite call of the replay. -/
inductive ReplayStep
  | getParamSet (descriptor : ℕ)
  | paramDefine (paramType name : Option CStr)
  | inputDefine (descriptor : ℕ) (name : Option CStr)
  | propSetInt (property : CStr) (index : ℕ) (value : Int32)
  | propSetDouble (property : CStr) (index : ℕ) (value : UInt64)
  | propSetString (property : CStr) (index : ℕ) (value : CStr)
  deriving DecidableEq

/-- The calls made so far, and the two handles. A handle is `none` when the call that
should have written it has failed. -/
structure Replay where
  log : SuiteLog := []
  paramSet : Option ℕ := some 0
  props : Option ℕ := some 0

namespace ReplayStep

/-- The call, on the current handles. -/
def call (w : Replay) : ReplayStep → SuiteCall
  | .getParamSet descriptor => .getParamSet descriptor
  | .paramDefine paramType name => .paramDefine w.paramSet paramType name
  | .inputDefine descriptor name => .inputDefine descriptor name none
  | .propSetInt property index value => .propSetInt w.props property index value
  | .propSetDouble property index value => .propSetDouble w.props property index value
  | .propSetString property index value => .propSetString w.props property index value

/-- The call sets a property, and its status is checked. -/
def isSet : ReplayStep → Bool
  | .propSetInt .. | .propSetDouble .. | .propSetString .. => true
  | _ => false

end ReplayStep

namespace Suites

variable (S : Suites)

/-- The status that the host returns. -/
def answer (w : Replay) (a : ReplayStep) : OfxStatus := S.status w.log (a.call w)

/-- The handle that the host writes. -/
def output (w : Replay) (a : ReplayStep) : Option ℕ :=
  if S.answer w a = kOfxStatOK then some (S.handle w.log (a.call w)) else none

/-- The replay on a host. -/
def machine : Machine Replay ReplayStep Fault where
  advance w a :=
    { log := w.log ++ [(a.call w, S.answer w a)]
      paramSet := match a with
        | .getParamSet _ => S.output w a
        | _ => w.paramSet
      props := match a with
        | .paramDefine .. | .inputDefine .. => S.output w a
        | _ => w.props }
  check w a := if a.isSet ∧ S.answer w a ≠ kOfxStatOK then some (.suite (S.answer w a)) else none

end Suites

/-! ## The script of a reply -/

/-- The script of a field; reading an absent one is undefined. -/
def need {α : Type} (field : Option α) (f : α → Script ReplayStep Fault) : Script ReplayStep Fault :=
  match field with
  | some a => f a
  | none => .stop .undefined

/-- One call for each value. -/
def setsPlan {α β : Type} (value : Option α) (values : α → Option (List β)) (set : ℕ → β → ReplayStep) :
    Script ReplayStep Fault :=
  need value fun value => need (values value) fun l => { steps := l.zipIdx.map fun p => set p.2 p.1 }

def OfxPropertyValue.plan (propName : CStr) : OfxPropertyValue → Script ReplayStep Fault
  | .OfxPropertyIntNValue value => setsPlan value (·.values) (.propSetInt propName)
  | .OfxPropertyFloatNValue value => setsPlan value (·.values) (.propSetDouble propName)
  | .OfxPropertyStringNValue value => setsPlan value (·.values) fun i v => .propSetString propName i (c_str v)
  | .NONE | .OfxPropertyPointerValue _ => {}

/-- A property is left out if its name is in `skip`. -/
def OfxProperty.plan (skip : List String) (property : OfxProperty) : Script ReplayStep Fault :=
  need property.name fun name => if name ∈ skip then {} else property.value.plan (c_str name)

/-- Some property of the list has this name. -/
def Has (key : String) (l : List OfxProperty) : Prop := ∃ p ∈ l, p.name = some key

instance (key : String) (l : List OfxProperty) : Decidable (Has key l) :=
  inferInstanceAs (Decidable (∃ p ∈ l, p.name = some key))

/-- Some property of the list has no name. -/
def Unnamed (l : List OfxProperty) : Prop := ∃ p ∈ l, p.name = none

instance (l : List OfxProperty) : Decidable (Unnamed l) := inferInstanceAs (Decidable (∃ p ∈ l, p.name = none))

/-- What the search for a property ends with: the name of the property, if it is there. -/
def found (key : String) (l : List OfxProperty) : Option CStr := if Has key l then some (c_str key) else none

def OfxParameter.plan (ndebug : Bool) (parameter : OfxParameter) : Script ReplayStep Fault :=
  need parameter.properties fun l =>
    if Unnamed l then .stop .undefined
    else if ndebug ∨ (Has kOfxPropName l ∧ Has kOfxParamPropType l) then
      { steps := [.paramDefine (found kOfxParamPropType l) (found kOfxPropName l)] } ++
        .all (l.map (·.plan [kOfxPropName, kOfxParamPropType]))
    else .stop .assert

def OfxMesh.plan (ndebug : Bool) (descriptor : ℕ) (input : OfxMesh) : Script ReplayStep Fault :=
  need input.properties fun l =>
    if Unnamed l then .stop .undefined
    else if ndebug ∨ Has kOfxPropName l then
      { steps := [.inputDefine descriptor (found kOfxPropName l)] } ++
        need input.attributes fun _ => .all (l.map (·.plan [kOfxPropName]))
    else .stop .assert

/-- The script of a reply. -/
def ActionDescribeEnd.plan (ndebug : Bool) (descriptor : ℕ) (action : ActionDescribeEnd) : Script ReplayStep Fault :=
  need action.status fun status =>
    if status.status = kOfxStatOK then
      { steps := [.getParamSet descriptor] } ++
        ((need action.parameters fun l => .all (l.map (·.plan ndebug))) ++
          need action.inputs fun l => .all (l.map (·.plan ndebug descriptor)))
    else .stop (.suite status.status)

end MfxProxy
