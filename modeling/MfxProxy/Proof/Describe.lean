import MfxProxy.Spec.Replay

/-!
# What `Describe` defines

The replay of a reply on a host whose calls all succeed. The loops that look for the name
and the type of a parameter keep the name of the property they find, not its value, so
every parameter is defined as `OfxPropName` of type `OfxParamPropType`, and every input
as `OfxPropName`.

* `replayParameter_triple`, `replayInput_triple`: one item.
* `describe_defines_iff`: the replies that are reproduced.
-/

namespace MfxProxy

open Lib

/-! ## Definitions, issued and received -/

/-- A definition, as strings. -/
inductive Define
  | param (name type : Option String)
  | input (name : Option String)
  deriving DecidableEq

/-- The definition a suite call makes. -/
def SuiteCall.define? : SuiteCall → Option Define
  | .paramDefine _ paramType name => some (.param (name.map CStr.str) (paramType.map CStr.str))
  | .inputDefine _ name _ => some (.input (name.map CStr.str))
  | _ => none

/-- The definitions of a log, in order. -/
def definesOf (log : SuiteLog) : List Define := log.filterMap fun c => c.1.define?

/-- The first string value of the property with this name. -/
def firstString (key : String) (properties : Option (List OfxProperty)) : Option String := do
  let property ← (← properties).find? (·.name = some key)
  match property.value with
  | .OfxPropertyStringNValue (some ⟨some (value :: _)⟩) => some value
  | _ => none

/-- The definition of a received parameter. -/
def OfxParameter.remote (parameter : OfxParameter) : Define :=
  .param (firstString kOfxPropName parameter.properties) (firstString kOfxParamPropType parameter.properties)

/-- The definition of a received input. -/
def OfxMesh.remote (input : OfxMesh) : Define := .input (firstString kOfxPropName input.properties)

/-- There is exactly one property with this name, a string property with a value. -/
def ExactlyOne (key : String) (properties : Option (List OfxProperty)) : Prop :=
  ∃ l value values, properties = some l ∧ l.filter (·.name = some key) =
    [⟨some key, .OfxPropertyStringNValue (some ⟨some (value :: values)⟩)⟩]

/-! ## What the replay reads -/

/-- The table and the vector that the value tags are there. -/
def OfxPropertyValue.present : OfxPropertyValue → Prop
  | .NONE | .OfxPropertyPointerValue _ => True
  | .OfxPropertyIntNValue value => ∃ v values, value = some v ∧ v.values = some values
  | .OfxPropertyFloatNValue value => ∃ v values, value = some v ∧ v.values = some values
  | .OfxPropertyStringNValue value => ∃ v values, value = some v ∧ v.values = some values

/-- The property has a name, and unless that is one of `skip`, a value. -/
def OfxProperty.readable (skip : List String) (property : OfxProperty) : Prop :=
  ∃ name, property.name = some name ∧ (name ∈ skip ∨ property.value.present)

def OfxParameter.readable (parameter : OfxParameter) : Prop :=
  ∃ l, parameter.properties = some l ∧ ∀ p ∈ l, p.readable [kOfxPropName, kOfxParamPropType]

def OfxMesh.readable (input : OfxMesh) : Prop :=
  (∃ l, input.properties = some l ∧ ∀ p ∈ l, p.readable [kOfxPropName]) ∧ input.attributes ≠ none

section replay

variable {S : Suites} {ds : List Define} {α β : Type}

/-- The calls of a host that never fails return OK. -/
def Suites.Succeeds (S : Suites) : Prop := ∀ log c, S.status log c = kOfxStatOK

/-! ## The properties of one item -/

theorem call_triple (hS : S.Succeeds) (c : SuiteCall) :
    Prog.Triple (fun log => definesOf log = ds) (S.call c)
      (fun status log => definesOf log = ds ++ c.define?.toList ∧ status = kOfxStatOK) (fun _ _ => False) := by
  intro log hlog
  have hrun : (S.call c).run log = (log ++ [(c, kOfxStatOK)], .ok kOfxStatOK) := by
    simp [Suites.call, hS log c, Except.map]
  rw [hrun]
  refine ⟨?_, rfl⟩
  rw [definesOf, List.filterMap_append, ← definesOf, hlog]
  cases h : c.define? <;> simp [h]

/-- `MFX_ENSURE` on a status that is OK. -/
theorem ensure_triple {P : SuiteLog → Prop} {E : Fault → SuiteLog → Prop} {status : OfxStatus} :
    Prog.Triple (fun log => P log ∧ status = kOfxStatOK) (Prog.lift (MFX_ENSURE status)) (fun _ => P) E := by
  refine Prog.triple_lift (fun _ _ _ h => h.1) fun f log hf h => ?_
  rw [MFX_ENSURE, if_pos h.2] at hf
  cases hf

/-- Setting the values of a vector defines nothing; without the vector, or the table that
holds it, a null pointer is read. -/
theorem setValues_triple (hS : S.Succeeds) {value : Option α} {values : α → Option (List β)} {set : ℕ → β → SuiteCall}
    (hset : ∀ i v, (set i v).define? = none) :
    Prog.Triple (fun log => definesOf log = ds) (S.setValues value values set)
      (fun _ log => definesOf log = ds ∧ ∃ v l, value = some v ∧ values v = some l)
      (fun _ _ => ¬ ∃ v l, value = some v ∧ values v = some l) := by
  cases value with
  | none => exact Prog.triple_throw fun _ _ => by simp
  | some v =>
    cases hl : values v with
    | none =>
      rw [Suites.setValues, deref, Prog.lift_ok_bind, hl]
      exact Prog.triple_throw fun _ _ => by simp [hl]
    | some l =>
      rw [Suites.setValues, deref, Prog.lift_ok_bind, hl]
      have hround : ∀ p : β × ℕ, Prog.Triple (fun log => definesOf log = ds)
          (S.call (set p.2 p.1) >>= fun status => Prog.lift (MFX_ENSURE status)) (fun _ log => definesOf log = ds)
          (fun _ _ => ¬ ∃ v' l', some v = some v' ∧ values v' = some l') := by
        intro p
        refine (call_triple hS _).safe.bind fun status => ?_
        refine ensure_triple.conseq (fun log h => ?_) (fun _ _ h => h) fun _ _ h => h
        rw [hset] at h
        exact ⟨by simpa using h.1, h.2⟩
      exact (Prog.triple_forEach fun p _ => hround p).conseq (fun _ h => h) (fun _ _ h => ⟨h, v, l, rfl, hl⟩)
        fun _ _ h => h

/-- A property with a name and a value is set without a definition; another one is read
through a null pointer. -/
theorem prop_set_triple (hS : S.Succeeds) (props : Option ℕ) {property : OfxProperty} {name : String}
    (hname : property.name = some name) :
    Prog.Triple (fun log => definesOf log = ds) (S.prop_set_from_flatbuffer props property)
      (fun status log => (definesOf log = ds ∧ property.value.present) ∧ status = kOfxStatOK)
      (fun _ _ => ¬ property.value.present) := by
  obtain ⟨_, value⟩ := property
  subst hname
  -- each branch ends with kOfxStatOK, and is there or not as its value is
  have hbranch : ∀ {x : Suites.Code Unit}, Prog.Triple (fun log => definesOf log = ds) x
      (fun _ log => definesOf log = ds ∧ value.present) (fun _ _ => ¬ value.present) →
      Prog.Triple (fun log => definesOf log = ds) (x >>= fun _ => pure kOfxStatOK)
        (fun status log => (definesOf log = ds ∧ value.present) ∧ status = kOfxStatOK)
        (fun _ _ => ¬ value.present) :=
    fun hx => hx.bind fun _ => Prog.triple_pure fun _ h => ⟨h, rfl⟩
  cases value with
  | NONE => exact Prog.triple_pure fun _ h => ⟨⟨h, trivial⟩, rfl⟩
  | OfxPropertyIntNValue value => exact hbranch (setValues_triple hS fun _ _ => rfl)
  | OfxPropertyFloatNValue value => exact hbranch (setValues_triple hS fun _ _ => rfl)
  | OfxPropertyStringNValue value => exact hbranch (setValues_triple hS fun _ _ => rfl)
  | OfxPropertyPointerValue value => exact Prog.triple_pure fun _ h => ⟨⟨h, trivial⟩, rfl⟩

/-- One property: it is left out, or set. -/
theorem replayProperty_triple (hS : S.Succeeds) (skip : List String) (props : Option ℕ) (property : OfxProperty) :
    Prog.Triple (fun log => definesOf log = ds) (S.replayProperty skip props property)
      (fun _ log => definesOf log = ds ∧ property.readable skip) (fun _ _ => ¬ property.readable skip) := by
  cases hname : property.name with
  | none =>
    rw [Suites.replayProperty, hname]
    refine Prog.triple_throw fun _ _ => ?_
    rintro ⟨name, h, -⟩
    rw [hname] at h
    cases h
  | some name =>
    rw [Suites.replayProperty, hname]
    refine Prog.triple_ite (fun hskip => Prog.triple_pure fun _ h => ⟨h, name, hname, Or.inl hskip⟩) fun hskip => ?_
    refine ((prop_set_triple hS props hname).error_mono fun _ _ h => ?_).bind
      fun status => ensure_triple.conseq (fun _ h => h) (fun _ _ h => ⟨h.1, name, hname, Or.inr h.2⟩) fun _ _ h => h
    rintro ⟨name', hname', hread⟩
    rw [hname, Option.some.injEq] at hname'
    subst hname'
    exact hread.elim hskip h

/-- **A loop over items that may not be readable.** -/
theorem forEach_readable {body : β → Suites.Code Unit} {readable : β → Prop} (define : β → List Define) (l : List β)
    (hbody : ∀ b ∈ l, ∀ ds, Prog.Triple (fun log => definesOf log = ds) (body b)
      (fun _ log => definesOf log = ds ++ define b ∧ readable b) (fun _ _ => ¬ readable b)) :
    Prog.Triple (fun log => definesOf log = ds) (Prog.forEach body l)
      (fun _ log => definesOf log = ds ++ l.flatMap define ∧ ∀ b ∈ l, readable b)
      (fun _ _ => ¬ ∀ b ∈ l, readable b) := by
  -- what the rounds done so far have defined, and that they could read it
  have hrounds : ∀ done, Prog.Triple (fun log => definesOf log = ds ++ done.flatMap define ∧ ∀ b ∈ done, readable b)
      (Prog.forEach body l)
      (fun _ log => definesOf log = ds ++ (done ++ l).flatMap define ∧ ∀ b ∈ done ++ l, readable b)
      (fun _ _ => ¬ ∀ b ∈ l, readable b) := by
    refine Prog.triple_forEach_done fun done b hb => ?_
    intro log hlog
    have hround : Prog.Triple (· = log) (body b)
        (fun _ log => definesOf log = ds ++ (done ++ [b]).flatMap define ∧ ∀ b' ∈ done ++ [b], readable b')
        (fun _ _ => ¬ ∀ b ∈ l, readable b) := by
      refine (hbody b hb (ds ++ done.flatMap define)).conseq ?_ ?_ fun _ _ hnot hall => hnot (hall b hb)
      · rintro _ rfl
        exact hlog.1
      · rintro _ log' ⟨hdef, hread⟩
        refine ⟨by simp [hdef], fun b' hb' => ?_⟩
        rcases List.mem_append.1 hb' with h | h
        · exact hlog.2 b' h
        · rw [List.mem_singleton.1 h]
          exact hread
    exact hround log rfl
  exact (hrounds []).conseq (fun log h => ⟨by simpa using h, by simp⟩) (fun _ log h => by simpa using h) fun _ _ h => h

/-- The properties of an item. -/
theorem replayProperties_triple (hS : S.Succeeds) (skip : List String) (props : Option ℕ) (l : List OfxProperty) :
    Prog.Triple (fun log => definesOf log = ds) (Prog.forEach (S.replayProperty skip props) l)
      (fun _ log => definesOf log = ds ∧ ∀ p ∈ l, OfxProperty.readable skip p)
      (fun _ _ => ¬ ∀ p ∈ l, OfxProperty.readable skip p) := by
  have hround : ∀ p ∈ l, ∀ ds, Prog.Triple (fun log => definesOf log = ds) (S.replayProperty skip props p)
      (fun _ log => definesOf log = ds ++ [] ∧ p.readable skip) (fun _ _ => ¬ p.readable skip) := by
    intro p _ ds
    rw [List.append_nil]
    exact replayProperty_triple hS skip props p
  refine (forEach_readable (fun _ => []) l hround).conseq (fun _ h => h) ?_ fun _ _ h => h
  rintro _ log ⟨hdef, hread⟩
  rw [show l.flatMap (fun _ => ([] : List Define)) = [] by simp, List.append_nil] at hdef
  exact ⟨hdef, hread⟩

/-! ## One item -/

theorem mem_names {key : String} {l : List OfxProperty} : key ∈ l.filterMap (·.name) ↔ Has key l := List.mem_filterMap

/-- A loop over the names of some properties. -/
theorem foldlM_names {γ : Type} {round : γ → OfxProperty → Except Fault γ} {step : γ → String → γ}
    (hround : ∀ g p, round g p = (deref p.name).map (step g)) (g : γ) (l : List OfxProperty) :
    l.foldlM round g = if Unnamed l then .error .undefined else .ok ((l.filterMap (·.name)).foldl step g) := by
  induction l generalizing g with
  | nil => rfl
  | cons p l ih =>
    rw [List.foldlM_cons, hround]
    cases hp : p.name with
    | none =>
      have hun : Unnamed (p :: l) := ⟨p, List.mem_cons_self, hp⟩
      rw [if_pos hun]
      rfl
    | some name =>
      have hun : Unnamed (p :: l) ↔ Unnamed l := by simp [Unnamed, hp]
      rw [List.filterMap_cons_some hp, List.foldl_cons, if_congr hun rfl rfl]
      exact ih (step g name)

/-- One name in a search for `key`. -/
def search (key : String) (f : Option CStr) (name : String) : Option CStr := if name = key then some (c_str key) else f

/-- A search among some names ends with the key itself. -/
theorem foldl_search (key : String) (names : List String) (f : Option CStr) :
    names.foldl (search key) f = if key ∈ names then some (c_str key) else f := by
  induction names generalizing f with
  | nil => simp
  | cons name names ih =>
    rw [List.foldl_cons, ih, search]
    by_cases hkey : key = name
    · simp [hkey]
    · simp [hkey, Ne.symm hkey]

theorem foldl_pair {γ δ ι : Type} (f : γ → ι → γ) (g : δ → ι → δ) (l : List ι) (x : γ × δ) :
    l.foldl (fun x i => (f x.1 i, g x.2 i)) x = (l.foldl f x.1, l.foldl g x.2) := by
  induction l generalizing x with
  | nil => rfl
  | cons i l ih => rw [List.foldl_cons, ih, List.foldl_cons, List.foldl_cons]

/-- The search for the name of an input finds the name of the property itself. -/
theorem findInputName_eq (l : List OfxProperty) : l.foldlM Suites.findInputName none =
    if Unnamed l then .error .undefined else .ok (found kOfxPropName l) := by
  have hround : ∀ f p, Suites.findInputName f p =
      (deref p.name).map fun name => search kOfxPropName f name := by
    intro f p
    unfold Suites.findInputName search
    cases hp : p.name with
    | none => rfl
    | some name =>
      by_cases hn : name = kOfxPropName
      · subst hn; simp [deref, bind, Except.bind, Except.map, pure, Except.pure]
      · simp [deref, hn, bind, Except.bind, Except.map, pure, Except.pure]
  rw [foldlM_names hround, foldl_search, found, if_congr mem_names rfl rfl]

/-- So does the search for the name and the type of a parameter. -/
theorem findParamName_eq (l : List OfxProperty) : l.foldlM Suites.findParamName (none, none) =
    if Unnamed l then .error .undefined else .ok (found kOfxPropName l, found kOfxParamPropType l) := by
  -- the second test is made only if the first fails, which is no matter: the names differ
  have hne : kOfxPropName ≠ kOfxParamPropType := by decide
  have hround : ∀ f p, Suites.findParamName f p = (deref p.name).map fun name =>
      (search kOfxPropName f.1 name, search kOfxParamPropType f.2 name) := by
    intro f p
    unfold Suites.findParamName search
    cases hp : p.name with
    | none => rfl
    | some name =>
      by_cases hn : name = kOfxPropName
      · subst hn; simp [deref, hne, bind, Except.bind, Except.map, pure, Except.pure]
      · by_cases ht : name = kOfxParamPropType
        · subst ht; simp [deref, hn, bind, Except.bind, Except.map, pure, Except.pure]
        · simp [deref, hn, ht, bind, Except.bind, Except.map, pure, Except.pure]
  rw [foldlM_names hround, foldl_pair (search kOfxPropName) (search kOfxParamPropType), foldl_search, foldl_search,
    found, found, if_congr mem_names rfl rfl, if_congr mem_names rfl rfl]

theorem Unnamed.not_readable {l : List OfxProperty} (h : Unnamed l) (skip : List String) :
    ¬ ∀ p ∈ l, p.readable skip := by
  obtain ⟨p, hp, hname⟩ := h
  intro hall
  obtain ⟨name, hname', -⟩ := hall p hp
  rw [hname] at hname'
  cases hname'

/-- The property with a name is there. -/
theorem ExactlyOne.mem {key : String} {l : List OfxProperty} (h : ExactlyOne key (some l)) : Has key l := by
  obtain ⟨l', value, values, hl, hfilter⟩ := h
  cases hl
  have hmem := List.mem_of_mem_filter (hfilter ▸ List.mem_singleton_self _ : _ ∈ l.filter (·.name = some key))
  exact ⟨_, hmem, rfl⟩

/-- A define call of a host that succeeds. -/
theorem callOut_triple (hS : S.Succeeds) (c : SuiteCall) :
    Prog.Triple (fun log => definesOf log = ds) (S.callOut c)
      (fun _ log => definesOf log = ds ++ c.define?.toList) (fun _ _ => False) := by
  refine Prog.triple_get_bind fun log hlog => ?_
  refine Prog.Triple.bind ((call_triple hS c).conseq ?_ (fun _ _ h => h) fun _ _ h => h) fun status =>
    Prog.triple_pure fun _ h => h.1
  rintro _ rfl
  exact hlog

/-- **A parameter is defined by the names of its properties, not by their values.** -/
theorem replayParameter_triple (hS : S.Succeeds) (ndebug : Bool) (paramSet : Option ℕ) {parameter : OfxParameter}
    (hname : ExactlyOne kOfxPropName parameter.properties) (htype : ExactlyOne kOfxParamPropType parameter.properties) :
    Prog.Triple (fun log => definesOf log = ds) (S.replayParameter ndebug paramSet parameter)
      (fun _ log => definesOf log = ds ++ [.param (some kOfxPropName) (some kOfxParamPropType)] ∧ parameter.readable)
      (fun _ _ => ¬ parameter.readable) := by
  obtain ⟨_ | l⟩ := parameter
  · obtain ⟨l, -, -, hl, -⟩ := hname
    cases hl
  rw [Suites.replayParameter]
  simp only [deref, Prog.lift_ok_bind]
  rw [findParamName_eq]
  by_cases hun : Unnamed l
  · rw [if_pos hun]
    refine Prog.triple_throw fun _ _ => ?_
    rintro ⟨l', hl', hread⟩
    cases hl'
    exact hun.not_readable _ hread
  · rw [if_neg hun, found, found, if_pos hname.mem, if_pos htype.mem]
    simp only [Prog.lift_ok_bind, Option.isSome_some, cassert, or_true, if_true]
    refine (callOut_triple hS _).safe.bind fun out => ?_
    -- the properties are set on whatever handle came out, and define nothing
    refine (replayProperties_triple hS _ out.2 l).conseq (fun _ h => h) ?_ ?_
    · rintro _ log ⟨hdef, hread⟩
      exact ⟨hdef, l, rfl, hread⟩
    · rintro _ _ hnot ⟨l', hl', hread⟩
      cases hl'
      exact hnot hread

/-- An input is defined by the name of its property. -/
theorem replayInput_triple (hS : S.Succeeds) (ndebug : Bool) (descriptor : ℕ) {input : OfxMesh}
    (hname : ExactlyOne kOfxPropName input.properties) :
    Prog.Triple (fun log => definesOf log = ds) (S.replayInput ndebug descriptor input)
      (fun _ log => definesOf log = ds ++ [.input (some kOfxPropName)] ∧ input.readable)
      (fun _ _ => ¬ input.readable) := by
  obtain ⟨_ | l, attributes⟩ := input
  · obtain ⟨l, -, -, hl, -⟩ := hname
    cases hl
  rw [Suites.replayInput]
  simp only [deref, Prog.lift_ok_bind]
  rw [findInputName_eq]
  by_cases hun : Unnamed l
  · rw [if_pos hun]
    refine Prog.triple_throw fun _ _ => ?_
    rintro ⟨⟨l', hl', hread⟩, -⟩
    cases hl'
    exact hun.not_readable _ hread
  · rw [if_neg hun, found, if_pos hname.mem]
    simp only [Prog.lift_ok_bind, Option.isSome_some, cassert, or_true, if_true]
    refine (callOut_triple hS _).safe.bind fun out => ?_
    cases attributes with
    | none => exact Prog.triple_throw fun _ _ h => h.2 rfl
    | some attributes =>
      refine (replayProperties_triple hS _ out.2 l).conseq (fun _ h => h) ?_ ?_
      · rintro _ log ⟨hdef, hread⟩
        exact ⟨hdef, ⟨l, rfl, hread⟩, by simp⟩
      · rintro _ _ hnot ⟨⟨l', hl', hread⟩, -⟩
        cases hl'
        exact hnot hread

end replay

/-! ## The whole reply -/

/-- **What `Describe` defines.**

Take a reply with status OK whose parameters each have exactly one name and one type
property and whose inputs each have exactly one name property, on a host whose calls all
succeed. `Describe` returns OK having defined every received parameter by its name and
type, in order, and after them every received input by its name, exactly when every field
it reads is there, every parameter is called `OfxPropName` and of type
`OfxParamPropType`, and every input is called `OfxPropName`. -/
theorem describe_defines_iff {S : Suites} (hS : S.Succeeds) (ndebug : Bool) (descriptor : ℕ)
    (parameters : List OfxParameter) (inputs : List OfxMesh)
    (hparam : ∀ p ∈ parameters, ExactlyOne kOfxPropName p.properties ∧ ExactlyOne kOfxParamPropType p.properties)
    (hinput : ∀ m ∈ inputs, ExactlyOne kOfxPropName m.properties) :
    (∃ log, (S.replayDescribe ndebug descriptor ⟨some ⟨kOfxStatOK⟩, some inputs, some parameters⟩).run [] =
        (log, .ok kOfxStatOK) ∧
      definesOf log = parameters.map OfxParameter.remote ++ inputs.map OfxMesh.remote) ↔
    ((∀ p ∈ parameters, p.readable) ∧ ∀ m ∈ inputs, m.readable) ∧
      (∀ p ∈ parameters, p.remote = .param (some kOfxPropName) (some kOfxParamPropType)) ∧
      ∀ m ∈ inputs, m.remote = .input (some kOfxPropName) := by
  have hreplay : Prog.Triple (fun log => definesOf log = [])
      (S.replayDescribe ndebug descriptor ⟨some ⟨kOfxStatOK⟩, some inputs, some parameters⟩)
      (fun status log => status = kOfxStatOK ∧
        definesOf log = parameters.map (fun _ => .param (some kOfxPropName) (some kOfxParamPropType)) ++
          inputs.map (fun _ => .input (some kOfxPropName)) ∧
        (∀ p ∈ parameters, p.readable) ∧ ∀ m ∈ inputs, m.readable)
      (fun _ _ => ¬ ((∀ p ∈ parameters, p.readable) ∧ ∀ m ∈ inputs, m.readable)) := by
    have hens : MFX_ENSURE kOfxStatOK = .ok () := rfl
    rw [Suites.replayDescribe]
    simp only [deref, Prog.lift_ok_bind, hens]
    refine (callOut_triple hS _).safe.bind fun out => ?_
    refine ((forEach_readable (fun _ => [.param (some kOfxPropName) (some kOfxParamPropType)]) parameters
      fun p hp ds => replayParameter_triple hS ndebug out.2 (hparam p hp).1 (hparam p hp).2).conseq (fun _ h => h)
      (fun _ _ h => h) fun _ _ hnot hall => hnot hall.1).bind fun _ => Prog.triple_and_pure fun hreadParams => ?_
    refine ((forEach_readable (fun _ => [.input (some kOfxPropName)]) inputs
      fun m hm ds => replayInput_triple hS ndebug descriptor (hinput m hm)).conseq (fun _ h => h)
      (fun _ _ h => h) fun _ _ hnot hall => hnot hall.2).bind fun _ => Prog.triple_pure fun log h => ?_
    rw [← List.map_eq_flatMap, ← List.map_eq_flatMap] at h
    exact ⟨rfl, by simpa [SuiteCall.define?] using h.1, hreadParams, h.2⟩
  constructor
  · rintro ⟨log, hrun, hdef⟩
    obtain ⟨-, hissued, hread⟩ := hreplay.of_ok rfl hrun
    rw [hissued] at hdef
    -- as many definitions as items, so each is compared with its own
    obtain ⟨hparams, hinputs⟩ := List.append_inj hdef (by simp)
    rw [List.map_inj_left] at hparams hinputs
    exact ⟨hread, fun p hp => (hparams p hp).symm, fun m hm => (hinputs m hm).symm⟩
  · rintro ⟨hread, hparams, hinputs⟩
    obtain ⟨log, status, hrun, rfl, hdef, -⟩ :=
      (hreplay.error_mono fun _ _ hnot => hnot hread).returns (s := []) rfl
    refine ⟨log, hrun, ?_⟩
    rw [hdef, List.map_congr_left hparams, List.map_congr_left hinputs]

/-- A host whose calls all succeed. -/
def Suites.obliging : Suites where
  status _ _ := kOfxStatOK
  handle log _ := log.length

/-- A parameter with a name and a type. -/
def parameterOf (name type : String) : OfxParameter where
  properties := some
    [⟨some kOfxPropName, .OfxPropertyStringNValue (some ⟨some [name]⟩)⟩,
     ⟨some kOfxParamPropType, .OfxPropertyStringNValue (some ⟨some [type]⟩)⟩]

theorem exactlyOne_parameterOf (name type : String) :
    ExactlyOne kOfxPropName (parameterOf name type).properties ∧
      ExactlyOne kOfxParamPropType (parameterOf name type).properties := by
  refine ⟨⟨_, name, [], rfl, ?_⟩, ⟨_, type, [], rfl, ?_⟩⟩ <;>
    simp [kOfxPropName, kOfxParamPropType]

theorem describe_defines_literal :
    ∃ log, (Suites.obliging.replayDescribe false 0
        ⟨some ⟨kOfxStatOK⟩, some [], some [parameterOf kOfxPropName kOfxParamPropType]⟩).run [] =
          (log, .ok kOfxStatOK) ∧
      definesOf log = [parameterOf kOfxPropName kOfxParamPropType].map OfxParameter.remote := by
  have h := (describe_defines_iff (S := .obliging) (fun _ _ => rfl) false 0
    [parameterOf kOfxPropName kOfxParamPropType] [] (by simp [exactlyOne_parameterOf]) (by simp)).2
  obtain ⟨log, hrun, hdef⟩ := h ⟨⟨by simp [OfxParameter.readable, OfxProperty.readable, parameterOf], by simp⟩,
    by simp [OfxParameter.remote, firstString, parameterOf, kOfxPropName, kOfxParamPropType], by simp⟩
  exact ⟨log, hrun, by simpa using hdef⟩

/-- Two parameters with different names are defined twice by the same one. -/
theorem describe_misnames_two :
    (∀ p ∈ [parameterOf "radius" "OfxParamTypeDouble", parameterOf "angle" "OfxParamTypeDouble"],
      ExactlyOne kOfxPropName p.properties ∧ ExactlyOne kOfxParamPropType p.properties) ∧
    ∃ log, (Suites.obliging.replayDescribe false 0 ⟨some ⟨kOfxStatOK⟩, some [],
        some [parameterOf "radius" "OfxParamTypeDouble", parameterOf "angle" "OfxParamTypeDouble"]⟩).run [] =
        (log, .ok kOfxStatOK) ∧
      definesOf log = [.param (some "OfxPropName") (some "OfxParamPropType"),
        .param (some "OfxPropName") (some "OfxParamPropType")] ∧
      definesOf log ≠ [parameterOf "radius" "OfxParamTypeDouble", parameterOf "angle" "OfxParamTypeDouble"].map
        OfxParameter.remote := by
  refine ⟨by simp [exactlyOne_parameterOf], _, rfl, by decide +kernel, by decide +kernel⟩

end MfxProxy
