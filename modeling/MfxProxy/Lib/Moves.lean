import MfxProxy.Lib.Exec
import Mathlib.Logic.Function.Basic

/-!
# Objects whose content is moved

The objects that are alive, by name, each with its content. A move hands the content
of one object to another and leaves in the source whatever the type leaves there:
nothing is assumed of an object that was moved from.

* `step`: one event; it must use objects that are alive, and a constructor a name that
  is free.
* `follow`: the object that holds, after an event, what a given object held.
* `exec_follow`: a content is the same after any number of moves.
-/

namespace MfxProxy.Lib.Moves

/-- What happens to objects `κ` with contents `β`. -/
inductive Event (κ β : Type*)
  /-- `x` comes to life. -/
  | create (x : κ) (b : β)
  /-- `x` is constructed from `y`, in which `left` stays. -/
  | construct (x y : κ) (left : β)
  /-- `y` is assigned to `x`, and `left` stays in `y`. -/
  | assign (x y : κ) (left : β)
  | destroy (x : κ)

variable {κ β : Type*} [DecidableEq κ]

/-- The content of `y` is in `x`, and `left` in `y`. -/
def move (s : κ → Option β) (x y : κ) (left : β) : Option (κ → Option β) :=
  (s y).map fun b => Function.update (Function.update s y (some left)) x (some b)

def step (s : κ → Option β) : Event κ β → Option (κ → Option β)
  | .create x b => if (s x).isSome then none else some (Function.update s x (some b))
  | .construct x y left => if (s x).isSome then none else move s x y left
  | .assign x y left => if (s x).isSome ∧ x ≠ y then move s x y left else none
  | .destroy x => if (s x).isSome then some (Function.update s x none) else none

/-- Where the content of `x` is after an event; `none` when it is gone. -/
def follow (x : κ) : Event κ β → Option κ
  | .create _ _ => some x
  | .construct y z _ => some (if x = z then y else x)
  | .assign y z _ => if x = z then some y else if x = y then none else some x
  | .destroy y => if x = y then none else some x

variable {s t : κ → Option β} {x x' y z : κ} {b left : β} {e : Event κ β} {es : List (Event κ β)}

omit [DecidableEq κ] in
theorem ne_of_free (hx : s x = some b) (hy : ¬ (s y).isSome) : x ≠ y := by
  intro h
  rw [← h, hx] at hy
  simp at hy

/-- The target of a move holds what the source held. -/
theorem move_target (h : move s x y left = some t) : t x = s y := by
  obtain ⟨b, hb, rfl⟩ := Option.map_eq_some_iff.1 h
  rw [Function.update_self, hb]

/-- A move leaves every other object as it is. -/
theorem move_of_ne (h : move s x y left = some t) (hx : z ≠ x) (hy : z ≠ y) : t z = s z := by
  obtain ⟨b, hb, rfl⟩ := Option.map_eq_some_iff.1 h
  rw [Function.update_of_ne hx, Function.update_of_ne hy]

/-- **One event keeps a content**, in the object where `follow` says it is. -/
theorem step_follow (hx : s x = some b) (hs : step s e = some t) (hf : follow x e = some x') :
    t x' = some b := by
  cases e with
  | create y c =>
    obtain rfl : x = x' := by simpa [follow] using hf
    by_cases hy : (s y).isSome
    · simp [step, hy] at hs
    have ht : Function.update s y (some c) = t := by simpa [step, hy] using hs
    rw [← ht, Function.update_of_ne (ne_of_free hx hy), hx]
  | construct y z left =>
    by_cases hy : (s y).isSome
    · simp [step, hy] at hs
    have ht : move s y z left = some t := by simpa [step, hy] using hs
    by_cases hz : x = z
    · obtain rfl : y = x' := by simpa [follow, hz] using hf
      rw [move_target ht, ← hz, hx]
    · obtain rfl : x = x' := by simpa [follow, hz] using hf
      rw [move_of_ne ht (ne_of_free hx hy) hz, hx]
  | assign y z left =>
    by_cases hy : (s y).isSome ∧ y ≠ z
    · have ht : move s y z left = some t := by simpa [step, hy] using hs
      by_cases hz : x = z
      · obtain rfl : y = x' := by simpa [follow, hz] using hf
        rw [move_target ht, ← hz, hx]
      · -- the old content of the target is not followed
        have hne : x ≠ y := by
          intro h
          rw [h] at hz hf
          simp [follow, hz] at hf
        obtain rfl : x = x' := by simpa [follow, hz, hne] using hf
        rw [move_of_ne ht hne hz, hx]
    · simp [step, hy] at hs
  | destroy y =>
    have hne : x ≠ y := by
      intro h
      simp [follow, h] at hf
    obtain rfl : x = x' := by simpa [follow, hne] using hf
    have halive : (s y).isSome := by
      by_contra hy
      simp [step, hy] at hs
    have ht : Function.update s y none = t := by simpa [step, halive] using hs
    rw [← ht, Function.update_of_ne hne, hx]

/-- **A content is the same after any number of moves.** -/
theorem exec_follow (hx : s x = some b) (hs : exec step s es = some t)
    (hf : exec follow x es = some x') : t x' = some b := by
  induction es generalizing s x with
  | nil =>
    simp only [exec_nil, Option.some.injEq] at hs hf
    rw [← hs, ← hf, hx]
  | cons e es ih =>
    obtain ⟨u, hu, hs⟩ := exec_cons.1 hs
    obtain ⟨y, hy, hf⟩ := exec_cons.1 hf
    exact ih (step_follow hx hu hy) hs hf

end MfxProxy.Lib.Moves
