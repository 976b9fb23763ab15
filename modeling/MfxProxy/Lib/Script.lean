import MfxProxy.Lib.Prog

/-!
# Scripts

A `Script α ε` is a list of steps to be made in order, and the fault with which it ends
if it does not end well. A `Machine σ α ε` says what a step does to a state and which
error stops the script once the step is made.

* `play_cases`: a script is played to its end, or to its first step with an error.
* `Ends`, `Fails`: what the steps and the fault of a script are, part by part.
* `Plays`: a computation that plays a script on a larger state, with the rules of
  sequence and loops.
-/

namespace MfxProxy.Lib

/-- Steps in order, and the fault they end with. -/
structure Script (α ε : Type) where
  steps : List α := []
  fault : Option ε := none

/-- What a step does, and the error that it stops with. -/
structure Machine (σ α ε : Type) where
  advance : σ → α → σ
  check : σ → α → Option ε

namespace Machine

variable {σ α ε : Type} (M : Machine σ α ε)

/-- The state after some steps, if all of them are made. -/
def walk (s : σ) (l : List α) : σ := l.foldl M.advance s

/-- Make the steps up to the first one with an error. -/
def play : σ → List α → σ × Option ε
  | s, [] => (s, none)
  | s, a :: l =>
    match M.check s a with
    | some e => (M.advance s a, some e)
    | none => play (M.advance s a) l

/-- No step has an error. -/
def Clear : σ → List α → Prop
  | _, [] => True
  | s, a :: l => M.check s a = none ∧ Clear (M.advance s a) l

section play

variable {M} {s : σ} {a : α} {e : ε} {l m : List α}

@[simp] theorem walk_nil : M.walk s [] = s := rfl

@[simp] theorem walk_cons : M.walk s (a :: l) = M.walk (M.advance s a) l := rfl

theorem walk_append : M.walk s (l ++ m) = M.walk (M.walk s l) m := List.foldl_append

theorem clear_append : M.Clear s (l ++ m) ↔ M.Clear s l ∧ M.Clear (M.walk s l) m := by
  induction l generalizing s with
  | nil => simp [Clear]
  | cons a l ih => rw [List.cons_append, Clear, Clear, ih, walk_cons, and_assoc]

theorem play_clear (h : M.Clear s l) : M.play s l = (M.walk s l, none) := by
  induction l generalizing s with
  | nil => rfl
  | cons a l ih =>
    rw [play, h.1]
    exact ih h.2

theorem play_stops (hl : M.Clear s l) (ha : M.check (M.walk s l) a = some e) :
    M.play s (l ++ a :: m) = (M.walk s (l ++ [a]), some e) := by
  induction l generalizing s with
  | nil => rw [List.nil_append, play, show M.check s a = some e from ha]; rfl
  | cons b l ih =>
    rw [List.cons_append, play, hl.1]
    exact ih hl.2 ha

/-- **Steps are made to the end, or to the first one with an error.** -/
theorem play_cases (M : Machine σ α ε) (s : σ) (l : List α) :
    M.Clear s l ∨ ∃ l₁ a e l₂, l = l₁ ++ a :: l₂ ∧ M.Clear s l₁ ∧ M.check (M.walk s l₁) a = some e := by
  induction l generalizing s with
  | nil => exact Or.inl trivial
  | cons a l ih =>
    cases ha : M.check s a with
    | some e => exact Or.inr ⟨[], a, e, l, rfl, trivial, ha⟩
    | none =>
      rcases ih (M.advance s a) with hclear | ⟨l₁, b, e, l₂, rfl, hclear, hb⟩
      · exact Or.inl ⟨ha, hclear⟩
      · exact Or.inr ⟨a :: l₁, b, e, l₂, rfl, ⟨ha, hclear⟩, hb⟩

theorem clear_iff : M.Clear s l ↔ (M.play s l).2 = none := by
  rcases play_cases M s l with hclear | ⟨l₁, a, e, l₂, rfl, hclear, ha⟩
  · rw [play_clear hclear]
    exact iff_of_true hclear rfl
  · rw [play_stops hclear ha]
    refine iff_of_false ?_ (by simp)
    intro h
    have hcheck := (clear_append.1 h).2.1
    rw [ha] at hcheck
    cases hcheck

theorem play_append : M.play s (l ++ m) =
    match M.play s l with
    | (t, none) => M.play t m
    | (t, some e) => (t, some e) := by
  induction l generalizing s with
  | nil => rfl
  | cons a l ih =>
    rw [List.cons_append, play, play]
    cases M.check s a with
    | none => exact ih
    | some e => rfl

end play

end Machine

namespace Script

variable {σ τ α β γ δ ε : Type}

/-- A script that ends at once. -/
def stop (e : ε) : Script α ε where fault := some e

/-- One script after the other, if the first ends well. -/
def append (p q : Script α ε) : Script α ε :=
  match p.fault with
  | none => ⟨p.steps ++ q.steps, q.fault⟩
  | some _ => p

instance : Append (Script α ε) := ⟨append⟩

/-- Scripts one after the other. -/
def all : List (Script α ε) → Script α ε
  | [] => {}
  | p :: l => p ++ all l

/-- Play a script from a state. -/
def play (M : Machine σ α ε) (p : Script α ε) (s : σ) : σ × Except ε Unit :=
  match M.play s p.steps, p.fault with
  | (t, some e), _ => (t, .error e)
  | (t, none), some e => (t, .error e)
  | (t, none), none => (t, .ok ())

variable {M : Machine σ α ε} {p q : Script α ε} {s t : σ}

theorem append_of_fault {e : ε} (h : p.fault = some e) : p ++ q = p := by
  show append p q = p
  rw [append, h]

theorem append_of_ends (h : p.fault = none) : p ++ q = ⟨p.steps ++ q.steps, q.fault⟩ := by
  show append p q = _
  rw [append, h]

@[simp] theorem append_empty : p ++ ({} : Script α ε) = p := by
  cases hp : p.fault with
  | some e => exact append_of_fault hp
  | none =>
    rw [append_of_ends hp, List.append_nil, ← hp]

theorem play_append : (p ++ q).play M s =
    match p.play M s with
    | (t, .ok ()) => q.play M t
    | (t, .error e) => (t, .error e) := by
  cases hp : p.fault with
  | some e =>
    rw [append_of_fault hp, play, hp]
    rcases M.play s p.steps with ⟨t, _ | e'⟩ <;> rfl
  | none =>
    rw [append_of_ends hp, play, play, hp, Machine.play_append]
    rcases M.play s p.steps with ⟨t, _ | e'⟩ <;> rfl

/-- A script whose parts all end well. -/
theorem all_of_ends {l : List (Script α ε)} (h : ∀ p ∈ l, p.fault = none) :
    all l = ⟨l.flatMap (·.steps), none⟩ := by
  induction l with
  | nil => rfl
  | cons p l ih =>
    rw [all, ih fun q hq => h q (List.mem_cons_of_mem _ hq), append_of_ends (h p List.mem_cons_self)]
    rfl

/-- The script ends well, and all its steps are in `φ`. -/
def Ends (φ : α → Prop) (p : Script α ε) : Prop := p.fault = none ∧ ∀ a ∈ p.steps, φ a

/-- If the script does not end well, its fault is in `ψ`. -/
def Fails (ψ : ε → Prop) (p : Script α ε) : Prop := ∀ e, p.fault = some e → ψ e

section ends

variable {φ : α → Prop} {ψ : ε → Prop} {e : ε}

@[simp] theorem ends_empty : Ends φ ({} : Script α ε) := ⟨rfl, by simp⟩

@[simp] theorem not_ends_stop : ¬ Ends φ (stop e : Script α ε) := by
  rintro ⟨h, -⟩
  cases h

theorem ends_append : Ends φ (p ++ q) ↔ Ends φ p ∧ Ends φ q := by
  unfold Ends
  cases hp : p.fault with
  | some e => rw [append_of_fault hp, hp]; simp
  | none =>
    rw [append_of_ends hp]
    simp only [List.forall_mem_append]
    tauto

theorem ends_all {l : List (Script α ε)} : Ends φ (all l) ↔ ∀ p ∈ l, Ends φ p := by
  induction l with
  | nil => simp [all]
  | cons p l ih => rw [all, ends_append, ih, List.forall_mem_cons]

theorem fails_of_ends (h : p.fault = none) : Fails ψ p := by
  intro e he
  rw [h] at he
  cases he

theorem fails_append (hp : Fails ψ p) (hq : Fails ψ q) : Fails ψ (p ++ q) := by
  cases h : p.fault with
  | some e => rwa [append_of_fault h]
  | none =>
    rw [append_of_ends h]
    exact hq

theorem fails_all {l : List (Script α ε)} (h : ∀ p ∈ l, Fails ψ p) : Fails ψ (all l) := by
  induction l with
  | nil => exact fails_of_ends rfl
  | cons p l ih => exact fails_append (h p List.mem_cons_self) (ih fun q hq => h q (List.mem_cons_of_mem _ hq))

end ends

end Script

/-! ## Computations that play a script -/

/-- From states in `P` the computation `x`, on the part `f s` of the state, does what the
script does, and returns into `Q` if the script ends well. -/
def Plays {σ τ α β ε : Type} (M : Machine σ α ε) (f : σ → τ) (P : σ → Prop) (x : Prog τ ε β) (p : Script α ε)
    (Q : β → σ → Prop) : Prop :=
  ∀ s, P s →
    match p.play M s with
    | (t, .ok ()) => ∃ b, x.run (f s) = (f t, .ok b) ∧ Q b t
    | (t, .error e) => x.run (f s) = (f t, .error e)

section plays

variable {σ τ α β γ ε : Type} {M : Machine σ α ε} {f : σ → τ} {P P' R : σ → Prop} {x : Prog τ ε β} {p q : Script α ε}
  {Q Q' : β → σ → Prop}

theorem Plays.of_ok (h : Plays M f P x p Q) {s t : σ} (hs : P s) (hp : p.play M s = (t, .ok ())) :
    ∃ b, x.run (f s) = (f t, .ok b) ∧ Q b t := by
  have := h s hs
  rwa [hp] at this

theorem Plays.of_error (h : Plays M f P x p Q) {s t : σ} {e : ε} (hs : P s) (hp : p.play M s = (t, .error e)) :
    x.run (f s) = (f t, .error e) := by
  have := h s hs
  rwa [hp] at this

theorem Plays.conseq (h : Plays M f P x p Q) (hP : ∀ s, P' s → P s) (hQ : ∀ b s, Q b s → Q' b s) :
    Plays M f P' x p Q' := by
  intro s hs
  rcases hp : p.play M s with ⟨t, e | ⟨⟩⟩
  · exact h.of_error (hP s hs) hp
  · obtain ⟨b, hb, hQb⟩ := h.of_ok (hP s hs) hp
    exact ⟨b, hb, hQ b t hQb⟩

theorem plays_pure {b : β} (h : ∀ s, P s → Q b s) : Plays M f P (pure b) {} Q := fun s hs => ⟨b, rfl, h s hs⟩

theorem plays_throw {e : ε} : Plays M f P (Prog.throw e : Prog τ ε β) (.stop e) Q := fun _ _ => rfl

/-- A fact that does not depend on the state. -/
theorem plays_and_pure {φ : Prop} (h : φ → Plays M f P x p Q) : Plays M f (fun s => P s ∧ φ) x p Q :=
  fun s hs => h hs.2 s hs.1

/-- **Sequence.** -/
theorem Plays.bind {g : β → Prog τ ε γ} {Q' : γ → σ → Prop} (hx : Plays M f P x p Q)
    (hg : ∀ b, Plays M f (Q b) (g b) q Q') : Plays M f P (x >>= g) (p ++ q) Q' := by
  intro s hs
  rw [Script.play_append]
  rcases hp : p.play M s with ⟨t, e | ⟨⟩⟩
  · exact Prog.run_bind_error (hx.of_error hs hp)
  · obtain ⟨b, hb, hQ⟩ := hx.of_ok hs hp
    rw [Prog.run_bind_ok hb]
    exact hg b t hQ

/-- What follows adds no step. -/
theorem Plays.bind_empty {g : β → Prog τ ε γ} {Q' : γ → σ → Prop} (hx : Plays M f P x p Q)
    (hg : ∀ b, Plays M f (Q b) (g b) {} Q') : Plays M f P (x >>= g) p Q' := by
  have h := hx.bind hg
  rwa [Script.append_empty] at h

/-- **Loops.** -/
theorem plays_forEach {body : γ → Prog τ ε Unit} {part : γ → Script α ε} {l : List γ}
    (h : ∀ c ∈ l, Plays M f P (body c) (part c) fun _ => P) :
    Plays M f P (Prog.forEach body l) (.all (l.map part)) fun _ => P := by
  induction l with
  | nil => exact plays_pure fun _ hs => hs
  | cons c l ih =>
    exact (h c List.mem_cons_self).bind fun _ => ih fun c hc => h c (List.mem_cons_of_mem _ hc)

end plays

end MfxProxy.Lib
