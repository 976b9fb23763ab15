import MfxProxy.Lib.Exec

/-!
# Simulations between two step functions

A relation `R` between concrete and abstract states is a `Simulation` if the abstract
system can follow every concrete step by zero or more steps of its own that lead to
related states. `L` says which abstract labels may follow a concrete one, so that a
condition on the labels of a concrete run carries over to the abstract run.

* `Simulation.exec`: whole runs are followed.
* `Simulation.allSteps`: what related states and an abstract invariant give holds at
  every concrete step.
-/

namespace MfxProxy.Lib

variable {σ α ρ β : Type*} {step : σ → α → Option σ} {astep : ρ → β → Option ρ}

/-- The abstract system follows every concrete step. -/
def Simulation (step : σ → α → Option σ) (astep : ρ → β → Option ρ) (R : σ → ρ → Prop) (L : α → List β → Prop) :
    Prop :=
  ∀ s a t r, R s r → step s a = some t → ∃ bs u, L a bs ∧ exec astep r bs = some u ∧ R t u

namespace Simulation

variable {R : σ → ρ → Prop} {L : α → List β → Prop} (hsim : Simulation step astep R L)

include hsim

/-- **Whole runs are followed.** -/
theorem exec {as : List α} {s t : σ} {r : ρ} (hR : R s r) (ht : exec step s as = some t) :
    ∃ bss u, List.Forall₂ L as bss ∧ Lib.exec astep r bss.flatten = some u ∧ R t u := by
  induction as generalizing s r with
  | nil =>
    obtain rfl : s = t := by simpa using ht
    exact ⟨[], r, .nil, exec_nil, hR⟩
  | cons a as ih =>
    obtain ⟨s', hs', ht⟩ := exec_cons.1 ht
    obtain ⟨bs, r', hL, hr', hR'⟩ := hsim s a s' r hR hs'
    obtain ⟨bss, u, hLs, hu, hRu⟩ := ih hR' ht
    refine ⟨bs :: bss, u, .cons hL hLs, ?_, hRu⟩
    rw [List.flatten_cons]
    exact exec_append.2 ⟨r', hr', hu⟩

variable {I : ρ → Prop} {C : β → Prop} {D : α → Prop}
  (hI : ∀ r b u, I r → C b → astep r b = some u → I u) (hDC : ∀ a bs, D a → L a bs → ∀ b ∈ bs, C b)

include hI hDC

/-- One concrete step, with the abstract invariant. -/
theorem step_inv {s t : σ} {a : α} {r : ρ} (hR : R s r) (hr : I r) (ha : D a) (ht : step s a = some t) :
    ∃ u, R t u ∧ I u := by
  obtain ⟨bs, u, hL, hu, hRu⟩ := hsim s a t r hR ht
  have hC : AllSteps astep (fun _ b => C b) r bs := (allSteps_label hu).2 (hDC a bs ha hL)
  exact ⟨u, hRu, exec_inv_of hI hr hC hu⟩

/-- **An abstract invariant at every concrete step.** -/
theorem allSteps {Q : σ → α → Prop} (hQ : ∀ s a r, R s r → I r → Q s a) {as : List α} {s t : σ} {r : ρ}
    (hR : R s r) (hr : I r) (has : ∀ a ∈ as, D a) (ht : Lib.exec step s as = some t) : AllSteps step Q s as := by
  have hD : AllSteps step (fun _ a => D a) s as := (allSteps_label ht).2 has
  refine allSteps_of_inv (I := fun s => ∃ u, R s u ∧ I u) (fun s a t hs ha ht => ?_) (fun s a hs _ => ?_)
    ⟨r, hR, hr⟩ hD
  · obtain ⟨r, hR, hr⟩ := hs
    exact hsim.step_inv hI hDC hR hr ha ht
  · obtain ⟨r, hR, hr⟩ := hs
    exact hQ s a r hR hr

end Simulation

end MfxProxy.Lib
