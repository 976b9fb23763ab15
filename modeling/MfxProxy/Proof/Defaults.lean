import MfxProxy.Proof.Replay
import MfxProxy.Spec.Effect

/-!
# The properties that `Describe` sets

The calls that set a property, for a reply that is complete, on a host where every define
call succeeds and the other calls may fail.

* `describe_sets`: they are the properties of the items in order, up to the first call
  that fails.
-/

namespace MfxProxy

open Lib

/-! ## The calls to be made -/

/-- The call sets a property. -/
def SuiteCall.isSet : SuiteCall → Bool
  | .propSetInt .. | .propSetDouble .. | .propSetString .. => true
  | _ => false

/-- The calls of a log that set a property, in order. -/
def setsOf (log : SuiteLog) : List SuiteCall := (log.map (·.1)).filter (·.isSet)

/-- The calls that set a property called `name` to this value: one for each element of an
int, double or string vector, and none for another value. -/
def OfxPropertyValue.sets (props : ℕ) (name : String) : OfxPropertyValue → List SuiteCall
  | .OfxPropertyIntNValue (some ⟨some values⟩) =>
    values.zipIdx.map fun (v, j) => .propSetInt (some props) (c_str name) j v
  | .OfxPropertyFloatNValue (some ⟨some values⟩) =>
    values.zipIdx.map fun (v, j) => .propSetDouble (some props) (c_str name) j v
  | .OfxPropertyStringNValue (some ⟨some values⟩) =>
    values.zipIdx.map fun (v, j) => .propSetString (some props) (c_str name) j (c_str v)
  | _ => []

/-- A property whose name is in `skip` is not set. -/
def OfxProperty.sets (skip : List String) (props : ℕ) (property : OfxProperty) : List SuiteCall :=
  match property.name with
  | some name => if name ∈ skip then [] else property.value.sets props name
  | none => []

/-- A parameter or an input of a reply: what it is defined as, and its properties. -/
structure ReplayItem where
  define : Define
  skip : List String
  properties : List OfxProperty

def ReplayItem.sets (item : ReplayItem) (props : ℕ) : List SuiteCall :=
  item.properties.flatMap (·.sets item.skip props)

def OfxParameter.item (parameter : OfxParameter) : ReplayItem where
  define := .param (some kOfxPropName) (some kOfxParamPropType)
  skip := [kOfxPropName, kOfxParamPropType]
  properties := parameter.properties.getD []

def OfxMesh.item (input : OfxMesh) : ReplayItem where
  define := .input (some kOfxPropName)
  skip := [kOfxPropName]
  properties := input.properties.getD []

/-- The calls for some items, each on its own handle. -/
def setsOn (items : List ReplayItem) (handles : List ℕ) : List SuiteCall :=
  (items.zip handles).flatMap fun (item, props) => item.sets props

/-- The handles that the define calls of `log` wrote, in order, where the calls of `before`
were made before them. -/
def Suites.written (S : Suites) (before : SuiteLog) : SuiteLog → List ℕ
  | [] => []
  | (c, status) :: log =>
    let rest := S.written (before ++ [(c, status)]) log
    if c.define?.isSome then S.handle before c :: rest else rest

/-- Every define call succeeds. -/
def Suites.Defines (S : Suites) : Prop := ∀ log c, c.define?.isSome → S.status log c = kOfxStatOK

/-- All fields that are read are there, and the name and the type among the properties. -/
def OfxParameter.Complete (parameter : OfxParameter) : Prop :=
  parameter.readable ∧ ∀ l ∈ parameter.properties, Has kOfxPropName l ∧ Has kOfxParamPropType l

/-- All fields that are read are there, and the name among the properties. -/
def OfxMesh.Complete (input : OfxMesh) : Prop := input.readable ∧ ∀ l ∈ input.properties, Has kOfxPropName l

/-! ## What a log holds -/

section logs

variable {S : Suites} {before log l m : SuiteLog} {c : SuiteCall} {status : OfxStatus}

theorem definesOf_append : definesOf (l ++ m) = definesOf l ++ definesOf m := List.filterMap_append

theorem setsOf_append : setsOf (l ++ m) = setsOf l ++ setsOf m := by
  rw [setsOf, List.map_append, List.filter_append, ← setsOf, ← setsOf]

theorem Suites.written_append : S.written before (l ++ m) = S.written before l ++ S.written (before ++ l) m := by
  induction l generalizing before with
  | nil => simp [Suites.written]
  | cons c l ih =>
    rw [List.cons_append, Suites.written, Suites.written, ih, List.append_assoc, List.singleton_append]
    by_cases hc : c.1.define?.isSome = true
    · rw [if_pos hc, if_pos hc, List.cons_append]
    · rw [if_neg hc, if_neg hc]

/-- A handle is written by each define call. -/
theorem Suites.length_written (before log : SuiteLog) : (S.written before log).length = (definesOf log).length := by
  induction log generalizing before with
  | nil => rfl
  | cons c log ih =>
    have hlog := ih (before ++ [c])
    rw [Suites.written, definesOf, List.filterMap_cons, ← definesOf]
    cases hc : c.1.define? with
    | none => simpa [hc] using hlog
    | some d => simpa [hc] using hlog

theorem define?_of_isSet (h : c.isSet = true) : c.define? = none := by cases c <;> first | rfl | cases h

/-- Calls that set properties define nothing. -/
theorem written_of_sets (before : SuiteLog) (h : ∀ c ∈ log, c.1.isSet = true) :
    definesOf log = [] ∧ setsOf log = log.map (·.1) ∧ S.written before log = [] := by
  have hdefines : definesOf log = [] := by
    refine List.filterMap_eq_nil_iff.2 fun c hc => ?_
    exact define?_of_isSet (h c hc)
  refine ⟨hdefines, ?_, ?_⟩
  · rw [setsOf, List.filter_eq_self]
    intro call hcall
    obtain ⟨c, hc, rfl⟩ := List.mem_map.1 hcall
    exact h c hc
  · rw [← List.length_eq_zero_iff, Suites.length_written, hdefines]
    rfl

end logs

/-! ## The steps of an item -/

/-- The step of the definition. -/
def Define.step (descriptor : ℕ) : Define → ReplayStep
  | .param name type => .paramDefine (type.map c_str) (name.map c_str)
  | .input name => .inputDefine descriptor (name.map c_str)

/-- The steps that set the properties of an item. -/
def ReplayItem.setSteps (item : ReplayItem) : List ReplayStep :=
  item.properties.flatMap fun p => (p.plan item.skip).steps

def ReplayItem.steps (descriptor : ℕ) (item : ReplayItem) : List ReplayStep :=
  item.define.step descriptor :: item.setSteps

/-- The names that the item is defined by have no zero byte, and its properties can be
read. -/
structure ReplayItem.Complete (item : ReplayItem) : Prop where
  define : ∀ (descriptor : ℕ) w, ((item.define.step descriptor).call w).define? = some item.define
  readable : ∀ p ∈ item.properties, p.readable item.skip

section steps

variable {h : ℕ} {w : Replay} {skip : List String} {name : String}

/-- The script of a vector that is there. -/
theorem setsPlan_vector {α β : Type} {value : Option α} {values : α → Option (List β)} {set : ℕ → β → ReplayStep}
    {call : ℕ → β → SuiteCall} {v : α} {l : List β} (hv : value = some v) (hl : values v = some l)
    (hset : ∀ j b, (set j b).isSet = true) (hcall : ∀ j b, (set j b).call w = call j b) :
    (setsPlan value values set).fault = none ∧ (∀ a ∈ (setsPlan value values set).steps, a.isSet = true) ∧
      (setsPlan value values set).steps.map (·.call w) = l.zipIdx.map fun p => call p.2 p.1 := by
  rw [setsPlan, hv, need, hl, need]
  refine ⟨rfl, ?_, ?_⟩
  · intro a ha
    obtain ⟨p, -, rfl⟩ := List.mem_map.1 ha
    exact hset p.2 p.1
  · rw [List.map_map]
    exact List.map_congr_left fun p _ => hcall p.2 p.1

/-- The script of a value that is there. -/
theorem value_plan {value : OfxPropertyValue} (hv : value.present) (hw : w.props = some h) :
    (value.plan (c_str name)).fault = none ∧ (∀ a ∈ (value.plan (c_str name)).steps, a.isSet = true) ∧
      (value.plan (c_str name)).steps.map (·.call w) = value.sets h name := by
  cases value with
  | NONE => exact ⟨rfl, by simp [OfxPropertyValue.plan], rfl⟩
  | OfxPropertyPointerValue value => exact ⟨rfl, by simp [OfxPropertyValue.plan], rfl⟩
  | OfxPropertyIntNValue value =>
    obtain ⟨⟨_⟩, l, rfl, rfl⟩ := hv
    exact setsPlan_vector rfl rfl (fun _ _ => rfl) fun j v => by rw [ReplayStep.call, hw]
  | OfxPropertyFloatNValue value =>
    obtain ⟨⟨_⟩, l, rfl, rfl⟩ := hv
    exact setsPlan_vector rfl rfl (fun _ _ => rfl) fun j v => by rw [ReplayStep.call, hw]
  | OfxPropertyStringNValue value =>
    obtain ⟨⟨_⟩, l, rfl, rfl⟩ := hv
    have hcall : ∀ j v, (ReplayStep.propSetString (c_str name) j (c_str v)).call w =
        .propSetString (some h) (c_str name) j (c_str v) := fun j v => by rw [ReplayStep.call, hw]
    exact setsPlan_vector rfl rfl (fun _ _ => rfl) hcall

theorem property_plan {p : OfxProperty} (hp : p.readable skip) (hw : w.props = some h) :
    (p.plan skip).fault = none ∧ (∀ a ∈ (p.plan skip).steps, a.isSet = true) ∧
      (p.plan skip).steps.map (·.call w) = p.sets skip h := by
  obtain ⟨name, hname, hvalue⟩ := hp
  rw [OfxProperty.plan, OfxProperty.sets, hname, need]
  by_cases hskip : name ∈ skip
  · simp [hskip]
  · simp only [if_neg hskip]
    exact value_plan (hvalue.resolve_left hskip) hw

/-- The properties of an item that can be read. -/
theorem properties_plan {l : List OfxProperty} (hl : ∀ p ∈ l, p.readable skip) :
    Script.all (l.map (·.plan skip)) = ⟨l.flatMap fun p => (p.plan skip).steps, none⟩ := by
  have hends : ∀ q ∈ l.map (·.plan skip), q.fault = none := by
    intro q hq
    obtain ⟨p, hp, rfl⟩ := List.mem_map.1 hq
    exact (property_plan (h := 0) (w := {}) (hl p hp) rfl).1
  rw [Script.all_of_ends hends, List.flatMap_map]

theorem ReplayItem.Complete.isSet {item : ReplayItem} (hitem : item.Complete) :
    ∀ a ∈ item.setSteps, a.isSet = true := by
  intro a ha
  obtain ⟨p, hp, hap⟩ := List.mem_flatMap.1 ha
  exact (property_plan (h := 0) (w := {}) (hitem.readable p hp) rfl).2.1 a hap

theorem ReplayItem.Complete.sets {item : ReplayItem} (hitem : item.Complete) (hw : w.props = some h) :
    item.setSteps.map (·.call w) = item.sets h := by
  rw [ReplayItem.setSteps, List.map_flatMap]
  exact List.flatMap_congr fun p hp => (property_plan (hitem.readable p hp) hw).2.2

end steps

/-! ## Playing the items -/

/-- The calls of `log`, made after `before`, define the items and set their properties, each
on the handle that its own define call wrote, and none of them fails. -/
structure Suites.SetsAll (S : Suites) (before : SuiteLog) (items : List ReplayItem) (log : SuiteLog) : Prop where
  defines : definesOf log = items.map (·.define)
  sets : setsOf log = setsOn items (S.written before log)
  ok : ∀ c ∈ log, c.1.isSet = true → c.2 = kOfxStatOK

/-- The same for the items up to `item`, on handle `h`, of which a property is not set: the
call `c` fails with `status`, and is the last one. -/
structure Suites.StopsAt (S : Suites) (before : SuiteLog) (item : ReplayItem) (log : SuiteLog) (h : ℕ) (c : SuiteCall)
    (status : OfxStatus) : Prop where
  defines : definesOf log = [item.define]
  handle : S.written before log = [h]
  ok : ∀ c ∈ log, c.1.isSet = true → c.2 = kOfxStatOK
  sets : setsOf log ++ [c] <+: item.sets h
  isSet : c.isSet = true
  failed : status ≠ kOfxStatOK

/-- The calls of `log` set the properties of the items up to a call that fails. -/
def Suites.SetsUntil (S : Suites) (before : SuiteLog) (items : List ReplayItem) (log : SuiteLog) (status : OfxStatus) :
    Prop :=
  ∃ items₁ item items₂ log₁ log₂ h c, items = items₁ ++ item :: items₂ ∧ log = log₁ ++ log₂ ++ [(c, status)] ∧
    S.SetsAll before items₁ log₁ ∧ S.StopsAt (before ++ log₁) item log₂ h c status

section play

variable {S : Suites} {before l m : SuiteLog} {item : ReplayItem} {items items' : List ReplayItem} {descriptor : ℕ}
  {status : OfxStatus}

theorem Suites.SetsAll.append (hl : S.SetsAll before items l) (hm : S.SetsAll (before ++ l) items' m) :
    S.SetsAll before (items ++ items') (l ++ m) := by
  have hlen : items.length = (S.written before l).length := by
    rw [Suites.length_written, hl.defines, List.length_map]
  refine ⟨?_, ?_, ?_⟩
  · rw [definesOf_append, hl.defines, hm.defines, List.map_append]
  · rw [setsOf_append, hl.sets, hm.sets, Suites.written_append, setsOn, setsOn, setsOn, List.zip_append hlen,
      List.flatMap_append]
  · intro c hc
    rcases List.mem_append.1 hc with h | h
    · exact hl.ok c h
    · exact hm.ok c h

theorem Suites.SetsAll.append_until (hl : S.SetsAll before items l) (hm : S.SetsUntil (before ++ l) items' m status) :
    S.SetsUntil before (items ++ items') (l ++ m) status := by
  obtain ⟨items₁, item, items₂, log₁, log₂, h, c, rfl, rfl, hall, hstop⟩ := hm
  refine ⟨items ++ items₁, item, items₂, l ++ log₁, log₂, h, c, ?_, ?_, hl.append hall, ?_⟩
  · rw [List.append_assoc]
  · simp only [List.append_assoc]
  · rwa [← List.append_assoc]

/-- A step that sets a property, on the replay. -/
theorem advance_set {w : Replay} {a : ReplayStep} (ha : a.isSet = true) :
    S.machine.advance w a = { w with log := w.log ++ [(a.call w, S.answer w a)] } := by
  cases a <;> first | rfl | cases ha

/-- The call of a step depends on the handles only. -/
theorem call_congr {w w' : Replay} (hset : w.paramSet = w'.paramSet) (hprops : w.props = w'.props) (a : ReplayStep) :
    a.call w = a.call w' := by
  cases a <;> simp [ReplayStep.call, hset, hprops]

theorem isSet_call (w : Replay) (a : ReplayStep) : (a.call w).isSet = a.isSet := by cases a <;> rfl

/-- A walk over calls that set properties. -/
theorem sets_walk {l : List ReplayStep} (hl : ∀ a ∈ l, a.isSet = true) (w : Replay) :
    ∃ log, S.machine.walk w l = { w with log := w.log ++ log } ∧ log.map (·.1) = l.map (·.call w) ∧
      (S.machine.Clear w l → ∀ c ∈ log, c.2 = kOfxStatOK) := by
  induction l generalizing w with
  | nil => exact ⟨[], by simp, rfl, by simp⟩
  | cons a l ih =>
    obtain ⟨ha, hrest⟩ := List.forall_mem_cons.1 hl
    obtain ⟨log, hwalk, hcalls, hok⟩ := ih hrest (S.machine.advance w a)
    rw [advance_set ha] at hwalk hcalls hok
    refine ⟨(a.call w, S.answer w a) :: log, ?_, ?_, ?_⟩
    · rw [Machine.walk_cons, advance_set ha, hwalk, List.append_assoc, List.singleton_append]
    · rw [List.map_cons, hcalls, List.map_cons]
      exact congrArg _ (List.map_congr_left fun b _ => call_congr rfl rfl b)
    · rintro ⟨hcheck, hclear⟩ c hc
      rcases List.mem_cons.1 hc with rfl | hc
      · exact check_eq_none.1 hcheck ha
      · rw [advance_set ha] at hclear
        exact hok hclear c hc

/-- The calls of an item that has been defined on handle `h`. -/
theorem setSteps_log {w : Replay} {h : ℕ} {l l' : List ReplayStep} {log : SuiteLog} (hitem : item.Complete)
    (hw : w.props = some h) (hl : item.setSteps = l ++ l') (hcalls : log.map (·.1) = l.map (·.call w)) :
    (∀ c ∈ log, c.1.isSet = true) ∧ log.map (·.1) ++ l'.map (·.call w) = item.sets h := by
  refine ⟨?_, ?_⟩
  · intro c hc
    have hmem : c.1 ∈ l.map (·.call w) := hcalls ▸ List.mem_map_of_mem hc
    obtain ⟨a, ha, hcall⟩ := List.mem_map.1 hmem
    rw [← hcall, isSet_call]
    exact hitem.isSet a (hl ▸ List.mem_append_left _ ha)
  · rw [hcalls, ← List.map_append, ← hl, hitem.sets hw]

/-- A define call and some calls that set properties. -/
theorem holds_cons (before : SuiteLog) {c : SuiteCall × OfxStatus} {d : Define} {log : SuiteLog}
    (hc : c.1.define? = some d) (hlog : ∀ c ∈ log, c.1.isSet = true) :
    definesOf (c :: log) = [d] ∧ setsOf (c :: log) = log.map (·.1) ∧
      S.written before (c :: log) = [S.handle before c.1] := by
  obtain ⟨hdefines, hsets, hwritten⟩ := written_of_sets (S := S) (before ++ [c]) hlog
  have hnot : ¬ c.1.isSet = true := by
    intro h
    rw [define?_of_isSet h] at hc
    cases hc
  refine ⟨?_, ?_, ?_⟩
  · rw [definesOf, List.filterMap_cons, hc, ← definesOf, hdefines]
  · rw [setsOf, List.map_cons, List.filter_cons_of_neg hnot, ← setsOf, hsets]
  · rw [Suites.written, hc, hwritten]
    rfl

/-- The define call of an item succeeds, and its handle is the one at hand then. -/
theorem define_play (hS : S.Defines) (hitem : item.Complete) (descriptor : ℕ) (w : Replay) :
    ∃ w₁ c, S.machine.play w (item.steps descriptor) = S.machine.play w₁ item.setSteps ∧
      w₁.log = w.log ++ [(c, kOfxStatOK)] ∧ w₁.props = some (S.handle w.log c) ∧ c.define? = some item.define := by
  obtain ⟨d, hd⟩ : ∃ d, item.define.step descriptor = d := ⟨_, rfl⟩
  have hdefine : (d.call w).define? = some item.define := by
    rw [← hd]
    exact hitem.define descriptor w
  have hok : S.answer w d = kOfxStatOK := hS _ _ (by rw [hdefine, Option.isSome_some])
  refine ⟨S.machine.advance w d, d.call w, ?_, ?_, ?_, hdefine⟩
  · rw [ReplayItem.steps, hd, Machine.play, check_eq_none.2 fun _ => hok]
  · rw [← hok]
    rfl
  · have hprops : (S.machine.advance w d).props = S.output w d := by
      rw [← hd]
      cases item.define <;> rfl
    rw [hprops, Suites.output, if_pos hok]

/-- **One item**: all its properties are set, or those up to a call that fails. -/
theorem item_play (hS : S.Defines) (hitem : item.Complete) (descriptor : ℕ) (w : Replay) :
    ∃ w' log, w'.log = w.log ++ log ∧
      (S.machine.play w (item.steps descriptor) = (w', none) ∧ S.SetsAll w.log [item] log ∨
        ∃ h c status, S.machine.play w (item.steps descriptor) = (w', some (.suite status)) ∧
          ∃ log', log = log' ++ [(c, status)] ∧ S.StopsAt w.log item log' h c status) := by
  obtain ⟨w₁, d, hplay, hlog, hprops, hdefine⟩ := define_play hS hitem descriptor w
  rw [hplay]
  -- the define call has returned OK, so a log is OK if the calls after it are
  have hcons : ∀ {log : SuiteLog}, (∀ c ∈ log, c.2 = kOfxStatOK) →
      ∀ c ∈ (d, kOfxStatOK) :: log, c.1.isSet = true → c.2 = kOfxStatOK := by
    intro log hlog c hc _
    rcases List.mem_cons.1 hc with rfl | hc
    · rfl
    · exact hlog c hc
  rcases Machine.play_cases S.machine w₁ item.setSteps with hclear | ⟨l, a, f, l', hl, hclear, ha⟩
  · obtain ⟨log, hwalk, hcalls, hoks⟩ := sets_walk (S := S) hitem.isSet w₁
    obtain ⟨hsets, hall⟩ := setSteps_log hitem hprops (List.append_nil _).symm hcalls
    rw [List.map_nil, List.append_nil] at hall
    obtain ⟨h₁, h₂, h₃⟩ := holds_cons (S := S) w.log (c := (d, kOfxStatOK)) hdefine hsets
    refine ⟨S.machine.walk w₁ item.setSteps, (d, kOfxStatOK) :: log, ?_, Or.inl ⟨Machine.play_clear hclear, h₁, ?_, ?_⟩⟩
    · rw [hwalk, hlog, List.append_assoc, List.singleton_append]
    · rw [h₂, h₃, hall]
      simp [setsOn]
    · exact hcons (hoks hclear)
  · have hset : a.isSet = true := hitem.isSet a (by simp [hl])
    obtain ⟨log, hwalk, hcalls, hoks⟩ := sets_walk (S := S) (fun b hb => hitem.isSet b (by simp [hl, hb])) w₁ (l := l)
    obtain ⟨hsets, hall⟩ := setSteps_log hitem hprops hl hcalls
    obtain ⟨h₁, h₂, h₃⟩ := holds_cons (S := S) w.log (c := (d, kOfxStatOK)) hdefine hsets
    obtain ⟨-, hfail, rfl⟩ := check_eq_some.1 ha
    obtain ⟨w₂, hw₂⟩ : ∃ w₂, S.machine.walk w₁ l = w₂ := ⟨_, rfl⟩
    rw [hw₂] at hwalk ha hfail
    have hcall : a.call w₂ = a.call w₁ := by
      rw [hwalk]
      exact call_congr rfl rfl a
    -- the call of `a` is the last one
    refine ⟨S.machine.advance w₂ a, (d, kOfxStatOK) :: log ++ [(a.call w₂, S.answer w₂ a)], ?_,
      Or.inr ⟨S.handle w.log d, a.call w₂, S.answer w₂ a, ?_, _, rfl, h₁, h₃, ?_, ?_, ?_, hfail⟩⟩
    · rw [advance_set hset, hwalk, hlog]
      simp
    · rw [hl, Machine.play_stops hclear (hw₂ ▸ ha), Machine.walk_append, hw₂]
      rfl
    · exact hcons (hoks hclear)
    · rw [h₂, ← hall, List.map_cons, hcall]
      exact ⟨l'.map (·.call w₁), by simp⟩
    · rw [isSet_call, hset]

/-- **All items.** -/
theorem items_play (hS : S.Defines) (hitems : ∀ item ∈ items, item.Complete) (descriptor : ℕ) (w : Replay) :
    ∃ w' log, w'.log = w.log ++ log ∧
      (S.machine.play w (items.flatMap (·.steps descriptor)) = (w', none) ∧ S.SetsAll w.log items log ∨
        ∃ status, S.machine.play w (items.flatMap (·.steps descriptor)) = (w', some (.suite status)) ∧
          S.SetsUntil w.log items log status) := by
  induction items generalizing w with
  | nil => exact ⟨w, [], by simp, Or.inl ⟨rfl, rfl, rfl, by simp⟩⟩
  | cons item items ih =>
    obtain ⟨hitem, hrest⟩ := List.forall_mem_cons.1 hitems
    rw [List.flatMap_cons, Machine.play_append]
    obtain ⟨w₁, log₁, hlog₁, hfirst⟩ := item_play hS hitem descriptor w
    rcases hfirst with ⟨hplay, hall⟩ | ⟨h, c, status, hplay, log', rfl, hstop⟩
    · rw [hplay]
      obtain ⟨w₂, log₂, hlog₂, hothers⟩ := ih hrest w₁
      refine ⟨w₂, log₁ ++ log₂, by rw [hlog₂, hlog₁, List.append_assoc], ?_⟩
      rw [hlog₁] at hothers
      rcases hothers with ⟨hplay₂, hall₂⟩ | ⟨status, hplay₂, huntil₂⟩
      · exact Or.inl ⟨hplay₂, hall.append hall₂⟩
      · exact Or.inr ⟨status, hplay₂, hall.append_until huntil₂⟩
    · rw [hplay]
      have hnone : S.SetsAll w.log [] [] := ⟨rfl, rfl, by simp⟩
      refine ⟨w₁, log' ++ [(c, status)], hlog₁, Or.inr ⟨status, rfl, ?_⟩⟩
      refine ⟨[], item, items, [], log', h, c, rfl, rfl, hnone, ?_⟩
      rwa [List.append_nil]

end play

/-! ## A complete reply -/

section complete

variable {S : Suites} {descriptor : ℕ} {ndebug : Bool}

theorem str_kOfxPropName : (c_str kOfxPropName).str = kOfxPropName := str_c_str.2 (by decide)

theorem str_kOfxParamPropType : (c_str kOfxParamPropType).str = kOfxParamPropType := str_c_str.2 (by decide)

theorem not_unnamed {skip : List String} {l : List OfxProperty} (hl : ∀ p ∈ l, p.readable skip) : ¬ Unnamed l :=
  fun h => h.not_readable skip hl

theorem OfxParameter.Complete.item {parameter : OfxParameter} (h : parameter.Complete) : parameter.item.Complete := by
  obtain ⟨⟨l, hl, hread⟩, -⟩ := h
  refine ⟨?_, ?_⟩
  · intro descriptor w
    simp [OfxParameter.item, Define.step, ReplayStep.call, SuiteCall.define?, str_kOfxPropName, str_kOfxParamPropType]
  · simpa [OfxParameter.item, hl] using hread

theorem OfxMesh.Complete.item {input : OfxMesh} (h : input.Complete) : input.item.Complete := by
  obtain ⟨⟨⟨l, hl, hread⟩, -⟩, -⟩ := h
  refine ⟨?_, ?_⟩
  · intro descriptor w
    simp [OfxMesh.item, Define.step, ReplayStep.call, SuiteCall.define?, str_kOfxPropName]
  · simpa [OfxMesh.item, hl] using hread

/-- The script of a complete parameter. -/
theorem OfxParameter.Complete.plan {parameter : OfxParameter} (h : parameter.Complete) :
    parameter.plan ndebug = ⟨parameter.item.steps descriptor, none⟩ := by
  obtain ⟨⟨l, hl, hread⟩, hhas⟩ := h
  obtain ⟨hname, htype⟩ := hhas l hl
  rw [OfxParameter.plan, hl, need, if_neg (not_unnamed hread), if_pos (Or.inr ⟨hname, htype⟩), found, found,
    if_pos hname, if_pos htype, properties_plan hread, Script.append_of_ends rfl]
  simp [ReplayItem.steps, ReplayItem.setSteps, OfxParameter.item, Define.step, hl]

/-- The script of a complete input. -/
theorem OfxMesh.Complete.plan {input : OfxMesh} (h : input.Complete) :
    input.plan ndebug descriptor = ⟨input.item.steps descriptor, none⟩ := by
  obtain ⟨⟨⟨l, hl, hread⟩, hattributes⟩, hhas⟩ := h
  have hname := hhas l hl
  obtain ⟨attributes, hattr⟩ := Option.ne_none_iff_exists'.1 hattributes
  rw [OfxMesh.plan, hl, need, if_neg (not_unnamed hread), if_pos (Or.inr hname), found, if_pos hname, hattr, need,
    properties_plan hread, Script.append_of_ends rfl]
  simp [ReplayItem.steps, ReplayItem.setSteps, OfxMesh.item, Define.step, hl]

theorem all_plan {α : Type} {l : List α} {plan : α → Script ReplayStep Fault} {item : α → ReplayItem}
    (h : ∀ a ∈ l, plan a = ⟨(item a).steps descriptor, none⟩) :
    Script.all (l.map plan) = ⟨(l.map item).flatMap (·.steps descriptor), none⟩ := by
  rw [List.map_congr_left h, Script.all_of_ends, List.flatMap_map, List.flatMap_map]
  intro p hp
  obtain ⟨a, -, rfl⟩ := List.mem_map.1 hp
  rfl

/-- The items of a reply, in the order in which `Describe` replays them. -/
def replayItems (parameters : List OfxParameter) (inputs : List OfxMesh) : List ReplayItem :=
  parameters.map (·.item) ++ inputs.map (·.item)

variable {parameters : List OfxParameter} {inputs : List OfxMesh}

theorem replayItems_complete (hparam : ∀ p ∈ parameters, p.Complete) (hinput : ∀ m ∈ inputs, m.Complete) :
    ∀ item ∈ replayItems parameters inputs, item.Complete := by
  intro item hitem
  rcases List.mem_append.1 hitem with h | h
  · obtain ⟨p, hp, rfl⟩ := List.mem_map.1 h
    exact (hparam p hp).item
  · obtain ⟨m, hm, rfl⟩ := List.mem_map.1 h
    exact (hinput m hm).item

/-- The script of a complete reply. -/
theorem complete_plan (hparam : ∀ p ∈ parameters, p.Complete) (hinput : ∀ m ∈ inputs, m.Complete) :
    ActionDescribeEnd.plan ndebug descriptor ⟨some ⟨kOfxStatOK⟩, some inputs, some parameters⟩ =
      ⟨.getParamSet descriptor :: (replayItems parameters inputs).flatMap (·.steps descriptor), none⟩ := by
  rw [ActionDescribeEnd.plan, need, if_pos rfl, need, need, all_plan fun p hp => (hparam p hp).plan,
    all_plan fun m hm => (hinput m hm).plan, Script.append_of_ends rfl, Script.append_of_ends rfl, replayItems,
    List.flatMap_append]
  rfl

/-- The replay of a complete reply. -/
theorem replay_complete (hS : S.Defines) (ndebug : Bool) (descriptor : ℕ) (hparam : ∀ p ∈ parameters, p.Complete)
    (hinput : ∀ m ∈ inputs, m.Complete) :
    ∃ log result, (S.replayDescribe ndebug descriptor ⟨some ⟨kOfxStatOK⟩, some inputs, some parameters⟩).run [] =
        (log, result) ∧
      (result = .ok kOfxStatOK ∧ S.SetsAll [] (replayItems parameters inputs) log ∨
        ∃ status, result = .error (.suite status) ∧ S.SetsUntil [] (replayItems parameters inputs) log status) := by
  rw [replayDescribe_run, complete_plan hparam hinput, Script.play]
  -- the call of `getParamSet` sets no property and defines nothing
  obtain ⟨w₁, hw₁⟩ : ∃ w₁, S.machine.advance {} (.getParamSet descriptor) = w₁ := ⟨_, rfl⟩
  obtain ⟨c, hlog₁, hc⟩ : ∃ c, w₁.log = [c] ∧ c.1 = .getParamSet descriptor := by
    rw [← hw₁]
    exact ⟨_, rfl, rfl⟩
  have hnone : S.SetsAll [] [] [c] := by
    refine ⟨?_, ?_, ?_⟩
    · simp [definesOf, hc, SuiteCall.define?]
    · simp [setsOf, hc, SuiteCall.isSet, setsOn]
    · simp [hc, SuiteCall.isSet]
  obtain ⟨w', log, hlog, hitems⟩ := items_play hS (replayItems_complete hparam hinput) descriptor w₁
  have hcheck : S.machine.check {} (.getParamSet descriptor) = none := check_eq_none.2 fun h => by cases h
  have hplay : S.machine.play {}
        (.getParamSet descriptor :: (replayItems parameters inputs).flatMap (·.steps descriptor)) =
      S.machine.play w₁ ((replayItems parameters inputs).flatMap (·.steps descriptor)) := by
    rw [Machine.play, hcheck, hw₁]
  rw [hlog₁] at hlog hitems
  rw [hplay]
  rcases hitems with ⟨hplay, hall⟩ | ⟨status, hplay, huntil⟩
  · rw [hplay]
    refine ⟨w'.log, .ok kOfxStatOK, rfl, Or.inl ⟨rfl, ?_⟩⟩
    rw [hlog]
    exact hnone.append hall
  · rw [hplay]
    refine ⟨w'.log, .error (.suite status), rfl, Or.inr ⟨status, rfl, ?_⟩⟩
    rw [hlog]
    exact hnone.append_until huntil

/-- **What `Describe` sets.**

Take a reply with status OK that is complete, and a host whose define calls succeed, while
the others may return any status. Let `log` be the suite calls that `Describe` makes.

If all the calls that set a property return OK, they are those of the items of the reply in
order, each on the handle that the item's own define call wrote, and `Describe` returns OK.
Otherwise there is an `item` such that they are those of the items before it and some of its
own, up to a call that is not OK, the first and the last one; no item after it is defined,
and `MainEntry` returns the status of that call. Whatever the handles of the items after it
would be, these calls are a prefix of those of all items. -/
theorem describe_sets {S : Suites} (hS : S.Defines) (ndebug : Bool) (descriptor : ℕ) (parameters : List OfxParameter)
    (inputs : List OfxMesh) (hparam : ∀ p ∈ parameters, p.Complete) (hinput : ∀ m ∈ inputs, m.Complete) :
    ∃ log result, (S.replayDescribe ndebug descriptor ⟨some ⟨kOfxStatOK⟩, some inputs, some parameters⟩).run [] =
        (log, result) ∧
      ((∀ c ∈ log, c.1.isSet = true → c.2 = kOfxStatOK) →
        setsOf log = setsOn (replayItems parameters inputs) (S.written [] log) ∧
        definesOf log = (replayItems parameters inputs).map (·.define) ∧ result = .ok kOfxStatOK) ∧
      ((∃ c ∈ log, c.1.isSet = true ∧ c.2 ≠ kOfxStatOK) →
        ∃ items item later handles h done c status, replayItems parameters inputs = items ++ item :: later ∧
          log = done ++ [(c, status)] ∧ S.written [] log = handles ++ [h] ∧ handles.length = items.length ∧
          definesOf log = (items ++ [item]).map (·.define) ∧
          (∀ d ∈ done, d.1.isSet = true → d.2 = kOfxStatOK) ∧ c.isSet = true ∧ status ≠ kOfxStatOK ∧
          (∃ part, setsOf log = setsOn items handles ++ part ++ [c] ∧ part ++ [c] <+: item.sets h) ∧
          (∀ handles', setsOf log <+: setsOn (replayItems parameters inputs) (handles ++ h :: handles')) ∧
          result = .error (.suite status) ∧ MainEntry result = .ok status) := by
  obtain ⟨log, result, hrun, hends⟩ := replay_complete hS ndebug descriptor hparam hinput
  refine ⟨log, result, hrun, ?_⟩
  rcases hends with ⟨hresult, hall⟩ | ⟨status, hresult, huntil⟩
  · refine ⟨fun _ => ⟨hall.sets, hall.defines, hresult⟩, ?_⟩
    rintro ⟨c, hc, hset, hfail⟩
    exact absurd (hall.ok c hc hset) hfail
  · obtain ⟨items, item, later, log₁, log₂, h, c, hitems, rfl, hall, hstop⟩ := huntil
    have hok : ∀ d ∈ log₁ ++ log₂, d.1.isSet = true → d.2 = kOfxStatOK := by
      intro d hd
      rcases List.mem_append.1 hd with hd | hd
      · exact hall.ok d hd
      · exact hstop.ok d hd
    have hdef : (c, status).1.define? = none := define?_of_isSet hstop.isSet
    have hdefines : definesOf (log₁ ++ log₂ ++ [(c, status)]) = (items ++ [item]).map (·.define) := by
      have hlast : definesOf [(c, status)] = [] := by simp [definesOf, define?_of_isSet hstop.isSet]
      rw [definesOf_append, definesOf_append, hall.defines, hstop.defines, hlast]
      simp
    have hwritten : S.written [] (log₁ ++ log₂ ++ [(c, status)]) = S.written [] log₁ ++ [h] := by
      have hlast : S.written ([] ++ (log₁ ++ log₂)) [(c, status)] = [] := by
        rw [Suites.written, hdef]
        rfl
      rw [Suites.written_append, Suites.written_append, hstop.handle, hlast, List.append_nil]
    have hlen : (S.written [] log₁).length = items.length := by
      rw [Suites.length_written, hall.defines, List.length_map]
    have hsets : setsOf (log₁ ++ log₂ ++ [(c, status)]) =
        setsOn items (S.written [] log₁) ++ setsOf log₂ ++ [c] := by
      have hlast : setsOf [(c, status)] = [c] := by simp [setsOf, hstop.isSet]
      rw [setsOf_append, setsOf_append, hall.sets, hlast]
    refine ⟨fun hoks => absurd (hoks (c, status) (by simp) hstop.isSet) hstop.failed, fun _ => ?_⟩
    refine ⟨items, item, later, S.written [] log₁, h, log₁ ++ log₂, c, status, hitems, rfl, hwritten, hlen, hdefines,
      hok, hstop.isSet, hstop.failed, ⟨setsOf log₂, hsets, hstop.sets⟩, ?_, hresult, ?_⟩
    · intro handles'
      -- the calls of all items begin with those of the items that were defined
      obtain ⟨rest, hrest⟩ := hstop.sets
      have hall' : setsOn (items ++ item :: later) (S.written [] log₁ ++ h :: handles') =
          setsOn items (S.written [] log₁) ++ (item.sets h ++ setsOn later handles') := by
        rw [setsOn, List.zip_append hlen.symm, List.flatMap_append, List.zip_cons_cons, List.flatMap_cons]
        rfl
      rw [hsets, hitems, hall', ← hrest]
      exact ⟨rest ++ setsOn later handles', by simp⟩
    · rw [hresult]
      rfl

end complete

/-- A host that fails to set what is not the first element of a vector. -/
def Suites.scalar : Suites where
  status _ c := match c with
    | .propSetInt _ _ index _ => if index = 0 then kOfxStatOK else kOfxStatFailed
    | _ => kOfxStatOK
  handle log _ := log.length

/-- A parameter with a name, a type and a default value of two elements. -/
def pairParameter : OfxParameter where
  properties := some
    [⟨some kOfxPropName, .NONE⟩, ⟨some "OfxParamPropDefault", .OfxPropertyIntNValue (some ⟨some [7, 8]⟩)⟩,
     ⟨some kOfxParamPropType, .NONE⟩]

/-- The second element is the last to be set, and the second parameter is not defined. -/
theorem describe_sets_pair : ∃ log, (Suites.scalar.replayDescribe true 0
      ⟨some ⟨kOfxStatOK⟩, some [], some [pairParameter, pairParameter]⟩).run [] =
      (log, .error (.suite kOfxStatFailed)) ∧
    setsOf log = [.propSetInt (some 1) (c_str "OfxParamPropDefault") 0 7,
      .propSetInt (some 1) (c_str "OfxParamPropDefault") 1 8] ∧
    (definesOf log).length = 1 := by
  have hS : Suites.scalar.Defines := by
    intro log c hc
    cases c <;> first | rfl | cases hc
  have hparam : ∀ p ∈ [pairParameter, pairParameter], p.Complete := by
    have hpair : pairParameter.Complete := by
      refine ⟨⟨_, rfl, ?_⟩, ?_⟩
      · simp [OfxProperty.readable, OfxPropertyValue.present]
      · rintro l ⟨⟩
        simp [Has]
    simp [hpair]
  obtain ⟨log, result, hrun, -, hfails⟩ := describe_sets hS true 0 [pairParameter, pairParameter] [] hparam (by simp)
  have hlog : log = [(.getParamSet 0, 0),
      (.paramDefine (some 0) (some (c_str kOfxParamPropType)) (some (c_str kOfxPropName)), 0),
      (.propSetInt (some 1) (c_str "OfxParamPropDefault") 0 7, 0),
      (.propSetInt (some 1) (c_str "OfxParamPropDefault") 1 8, 1)] :=
    (congrArg Prod.fst hrun).symm.trans (by decide +kernel)
  obtain ⟨items, item, later, handles, h, done, c, status, -, hdone, -, -, -, -, -, -, -, -, hresult, -⟩ :=
    hfails ⟨(.propSetInt (some 1) (c_str "OfxParamPropDefault") 1 8, 1), by simp [hlog], rfl, by decide⟩
  rw [hlog] at hdone
  have hstatus : status = kOfxStatFailed := by
    have hlast := congrArg List.getLast? hdone
    exact (by simpa using congrArg (Option.map Prod.snd) hlast : (1 : OfxStatus) = status).symm
  rw [hresult, hstatus] at hrun
  exact ⟨log, hrun, by rw [hlog]; decide +kernel, by rw [hlog]; decide +kernel⟩

end MfxProxy
