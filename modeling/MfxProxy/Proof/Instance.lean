import MfxProxy.Spec.Instance

/-!
# Instance data are never there

`InstanceData` is meant to be stored as `kOfxPropInstanceData`, where `IsIdentity`,
`Cook` and `DestroyInstance` look for it. `CreateInstance` stores nothing, and no other
action does.

* `noData_step`: no action sets the property.
* `instance_data_iff`: the runs on which the actions find the data they need.
* `use_ends`: the first action that needs them ends the process.
-/

namespace MfxProxy

open Lib

variable {unset : OfxStatus} {s t u : Instances} {a : InstanceAction} {as : List InstanceAction}

/-! ## What the actions need -/

/-- `get_instance_data` returns a pointer to the block `d`, which has not been deleted. -/
def InstanceMemory.Finds (unset : OfxStatus) (m : InstanceMemory) (inst : OfxMeshEffectHandle)
    (d : InstanceData) : Prop :=
  ∃ p, (get_instance_data unset inst).run m = (m, .ok (some p)) ∧ m.heap p = some d

-- what `set_instance_data` stores, `get_instance_data` finds
example {d : InstanceData} :
    ((InstanceMemory.set_instance_data 1 (some 0)).run { heap := fun _ => some d }).1.Finds kOfxStatOK 1 d :=
  ⟨0, rfl, rfl⟩

/-- **What an action needs of the instance data.** `IsIdentity` and `Cook` find the data
of their instance, with an id that no other live instance has; `DestroyInstance` deletes
that block and no other, and it has not been deleted before. -/
def FindsData (unset : OfxStatus) (s : Instances) : InstanceAction → Prop
  | .CreateInstance _ => True
  | .Cook inst | .IsIdentity inst =>
    ∃ d, s.memory.Finds unset inst d ∧ ∀ other ∈ s.live, other ≠ inst →
      ∀ d', s.memory.Finds unset other d' → d'.instance_id ≠ d.instance_id
  | .DestroyInstance inst =>
    ∃ p, s.memory.props inst = some (some p) ∧ p ∉ s.memory.deleted ∧
      ∀ t, instanceStep unset s (.DestroyInstance inst) = some t → t.memory.deleted = s.memory.deleted ++ [p]

/-! ## No action sets the property -/

section actions

variable {m : InstanceMemory} {inst : OfxMeshEffectHandle}

theorem propGetPointer_unset (h : m.props inst = none) {data : Pointer} :
    (InstanceMemory.propGetPointer unset inst data).run m = (m, .ok (unset, data)) := by
  rw [InstanceMemory.propGetPointer, Prog.run_get_bind, h]
  rfl

theorem get_instance_data_unset (h : m.props inst = none) :
    (InstanceMemory.get_instance_data unset inst).run m = (m, .ok none) := by
  rw [InstanceMemory.get_instance_data, Prog.run_bind_ok (propGetPointer_unset h)]
  rfl

theorem not_finds_unset (h : m.props inst = none) {d : InstanceData} : ¬ m.Finds unset inst d := by
  intro hd
  obtain ⟨p, hp, -⟩ := hd
  rw [get_instance_data_unset h] at hp
  cases hp

/-- `Cook` dereferences a null pointer. -/
theorem cook_unset (h : m.props inst = none) :
    (InstanceMemory.Cook unset inst).run m = (m, .error .undefined) := by
  rw [InstanceMemory.Cook, Prog.run_bind_ok (get_instance_data_unset h)]
  rfl

/-- So does `IsIdentity`. -/
theorem isIdentity_unset (h : m.props inst = none) :
    (InstanceMemory.IsIdentity unset inst).run m = (m, .error .undefined) := by
  rw [InstanceMemory.IsIdentity, Prog.run_bind_ok (get_instance_data_unset h)]
  rfl

/-- `DestroyInstance` deletes a null pointer, or fails before it. -/
theorem destroyInstance_unset (h : m.props inst = none) :
    (InstanceMemory.DestroyInstance unset inst).run m =
      (m, if unset = kOfxStatOK then .ok kOfxStatOK else .error (.suite unset)) := by
  have hdelete : (InstanceMemory.delete_instance_data unset inst).run m =
      (m, if unset = kOfxStatOK then .ok kOfxStatOK else .error (.suite unset)) := by
    rw [InstanceMemory.delete_instance_data, Prog.run_bind_ok (propGetPointer_unset h)]
    -- the pointer is null, and is deleted only if the suite reports no error
    by_cases hst : unset = kOfxStatOK
    · simp [MFX_ENSURE, InstanceMemory.delete, hst, Except.map]
    · simp only [MFX_ENSURE, if_neg hst, Prog.run_lift_error_bind]
  by_cases hst : unset = kOfxStatOK
  · rw [if_pos hst] at hdelete ⊢
    rw [InstanceMemory.DestroyInstance, Prog.run_bind_ok hdelete]
    rfl
  · rw [if_neg hst] at hdelete ⊢
    exact Prog.run_bind_error hdelete

end actions

/-- No instance has its property set, and nothing has been deleted. -/
structure NoData (s : Instances) : Prop where
  props : ∀ inst, s.memory.props inst = none
  deleted : s.memory.deleted = []

/-- An action that leaves the memory alone keeps the data absent, however it ends. -/
theorem NoData.finish (h : NoData s) {after : OfxStatus → Finset OfxMeshEffectHandle} (r : Except Fault OfxStatus) :
    NoData (s.finish after (s.memory, r)) := by
  unfold Instances.finish
  -- a fault sets `ended`, and a status can change the live instances
  rcases r with (_ | _ | _ | _ | _ | _ | _) | _ <;> exact ⟨h.props, h.deleted⟩

/-- **No action sets the property.** -/
theorem noData_step (h : NoData s) (hstep : instanceStep unset s a = some t) : NoData t := by
  unfold instanceStep at hstep
  rw [Option.ite_none_left_eq_some] at hstep
  obtain ⟨-, hstep⟩ := hstep
  cases a with
  | CreateInstance inst =>
    rw [Option.ite_none_left_eq_some, Option.some.injEq] at hstep
    obtain ⟨-, rfl⟩ := hstep
    refine ⟨fun other => ?_, h.deleted⟩
    -- a new instance has an empty property set
    show Function.update s.memory.props inst none other = none
    rw [Function.update_apply]
    split
    · rfl
    · exact h.props other
  | DestroyInstance inst =>
    rw [Option.ite_none_right_eq_some, destroyInstance_unset (h.props inst), Option.some.injEq] at hstep
    obtain ⟨-, rfl⟩ := hstep
    exact h.finish _
  | Cook inst =>
    rw [Option.ite_none_right_eq_some, cook_unset (h.props inst), Option.some.injEq] at hstep
    obtain ⟨-, rfl⟩ := hstep
    exact h.finish _
  | IsIdentity inst =>
    rw [Option.ite_none_right_eq_some, isIdentity_unset (h.props inst), Option.some.injEq] at hstep
    obtain ⟨-, rfl⟩ := hstep
    exact h.finish _

theorem noData_init : NoData {} := ⟨fun _ => rfl, rfl⟩

/-- Without data only `CreateInstance` has what it needs. -/
theorem findsData_iff (h : NoData s) : FindsData unset s a ↔ ∃ inst, a = .CreateInstance inst := by
  cases a with
  | CreateInstance inst => exact ⟨fun _ => ⟨inst, rfl⟩, fun _ => trivial⟩
  | DestroyInstance inst =>
    constructor
    · rintro ⟨p, hp, -⟩
      rw [h.props inst] at hp
      cases hp
    · rintro ⟨_, h⟩
      cases h
  | Cook inst =>
    constructor
    · rintro ⟨d, hd, -⟩
      exact (not_finds_unset (h.props inst) hd).elim
    · rintro ⟨_, h⟩
      cases h
  | IsIdentity inst =>
    constructor
    · rintro ⟨d, hd, -⟩
      exact (not_finds_unset (h.props inst) hd).elim
    · rintro ⟨_, h⟩
      cases h

/-! ## Whole runs -/

/-- **The runs on which every action finds its data** are those that only create
instances. -/
theorem instance_data_iff (h : exec (instanceStep unset) {} as = some u) :
    AllSteps (instanceStep unset) (FindsData unset) {} as ↔ ∀ a ∈ as, ∃ inst, a = .CreateInstance inst := by
  -- as there are never data, what a step needs depends on its action alone
  rw [allSteps_congr (fun s a t => noData_step) (fun s a t hs _ => findsData_iff hs) noData_init h]
  exact allSteps_label h

theorem instance_data_created : AllSteps (instanceStep kOfxStatOK) (FindsData kOfxStatOK) {}
    [.CreateInstance 1, .CreateInstance 2] :=
  (instance_data_iff (u := { memory := { props := Function.update (Function.update (fun _ => none) 1 none) 2 none }
                             live := {2, 1} }) rfl).2 (by simp)

/-- The first `IsIdentity` or `Cook` of a run ends the process, by dereferencing a null
pointer, and has not found its data. -/
theorem use_ends (h : exec (instanceStep unset) {} as = some u) (halive : u.ended = none)
    {inst : OfxMeshEffectHandle} (hlive : inst ∈ u.live) (ha : a = .Cook inst ∨ a = .IsIdentity inst) :
    ∃ v, exec (instanceStep unset) {} (as ++ [a]) = some v ∧ v.ended = some .undefined ∧
      ¬ FindsData unset u a := by
  have hno : NoData u := exec_inv (fun s a t => noData_step) noData_init h
  refine ⟨{ u with ended := some .undefined }, ?_, rfl, ?_⟩
  · rw [exec_append]
    refine ⟨u, h, exec_cons.2 ⟨_, ?_, exec_nil⟩⟩
    rcases ha with rfl | rfl
    · simp [instanceStep, halive, hlive, cook_unset (hno.props inst), Instances.finish]
    · simp [instanceStep, halive, hlive, isIdentity_unset (hno.props inst), Instances.finish]
  · intro hfinds
    obtain ⟨other, hcreate⟩ := (findsData_iff hno).1 hfinds
    rcases ha with rfl | rfl <;> cases hcreate

/-- An instance that is created and cooked: the process ends in `Cook`. -/
theorem instance_data_missing :
    ∃ v, exec (instanceStep kOfxStatOK) {} [.CreateInstance 1, .Cook 1] = some v ∧ v.ended = some .undefined ∧
      ¬ AllSteps (instanceStep kOfxStatOK) (FindsData kOfxStatOK) {} [.CreateInstance 1, .Cook 1] := by
  -- `Cook` is the first action that needs the data
  have hcreate : exec (instanceStep kOfxStatOK) {} [.CreateInstance 1] =
      some { memory := { props := Function.update (fun _ => none) 1 none }, live := {1} } := rfl
  obtain ⟨v, hv, hended, hcook⟩ := use_ends hcreate rfl (Finset.mem_singleton_self 1) (.inl rfl)
  refine ⟨v, hv, hended, ?_⟩
  intro hall
  exact hcook (hall.2 _ rfl).1

end MfxProxy
