import Mathlib.Data.List.Basic
import Mathlib.Data.List.Range

/-!
# Stateful computations that may stop

`Prog σ ε α` is a computation on a state `σ` that returns an `α` or stops with an
`ε`; the state it reached survives either way, as memory does when a C++ function
throws.

* `run_*`: how a computation runs, step by step (the simp set).
* `Triple P x Q E`: from a state in `P`, `x` returns into `Q` or stops in `E`, with
  the rules of consequence, sequence, choice and loops.
* `Triple.returns`: a computation that cannot stop returns.
* `Returns x s Q`: from the state `s`, `x` returns into `Q`, with the rules of sequence and
  loops.
-/

namespace MfxProxy.Lib

/-- A computation on a state that returns or stops. -/
structure Prog (σ ε α : Type) where
  run : σ → σ × Except ε α

namespace Prog

variable {σ ε α β : Type}

instance : Monad (Prog σ ε) where
  pure a := ⟨fun s => (s, .ok a)⟩
  bind x f := ⟨fun s =>
    match x.run s with
    | (s, .ok a) => (f a).run s
    | (s, .error e) => (s, .error e)⟩

/-- The state. -/
def get : Prog σ ε σ := ⟨fun s => (s, .ok s)⟩

/-- Change the state. -/
def modify (f : σ → σ) : Prog σ ε Unit := ⟨fun s => (f s, .ok ())⟩

/-- Stop. -/
def throw (e : ε) : Prog σ ε α := ⟨fun s => (s, .error e)⟩

/-- A computation that does not use the state. -/
def lift (x : Except ε α) : Prog σ ε α := ⟨fun s => (s, x)⟩

/-- Run to the end, and return how it ended. -/
def attempt (x : Prog σ ε α) : Prog σ ε (Except ε α) :=
  ⟨fun s => ((x.run s).1, .ok (x.run s).2)⟩

/-- A loop over a list; a round that stops ends it. -/
def forEach (body : β → Prog σ ε Unit) : List β → Prog σ ε Unit
  | [] => pure ()
  | b :: l => do body b; forEach body l

section run

variable {s t : σ} {a : α} {e : ε} {x : Prog σ ε α} {f : α → Prog σ ε β}

theorem ext {x y : Prog σ ε α} (h : ∀ s, x.run s = y.run s) : x = y := by
  cases x; cases y; congr; exact funext h

@[simp] theorem run_pure : (pure a : Prog σ ε α).run s = (s, .ok a) := rfl

@[simp] theorem run_get : (get : Prog σ ε σ).run s = (s, .ok s) := rfl

@[simp] theorem run_modify (f : σ → σ) : (modify f : Prog σ ε Unit).run s = (f s, .ok ()) := rfl

@[simp] theorem run_throw : (throw e : Prog σ ε α).run s = (s, .error e) := rfl

@[simp] theorem run_lift (y : Except ε α) : (lift y : Prog σ ε α).run s = (s, y) := rfl

@[simp] theorem run_attempt : (attempt x).run s = ((x.run s).1, .ok (x.run s).2) := rfl

theorem run_bind : (x >>= f).run s = match x.run s with
    | (s, .ok a) => (f a).run s
    | (s, .error e) => (s, .error e) := rfl

theorem run_bind_ok (h : x.run s = (t, .ok a)) : (x >>= f).run s = (f a).run t := by
  rw [run_bind, h]

theorem run_bind_error (h : x.run s = (t, .error e)) : (x >>= f).run s = (t, .error e) := by
  rw [run_bind, h]

@[simp] theorem run_map {f : α → β} : (f <$> x).run s = ((x.run s).1, (x.run s).2.map f) := by
  show (x >>= fun a => pure (f a)).run s = _
  rw [run_bind]
  rcases x.run s with ⟨t, a | a⟩ <;> rfl

@[simp] theorem run_pure_bind : ((pure a : Prog σ ε α) >>= f).run s = (f a).run s := rfl

@[simp] theorem run_get_bind {f : σ → Prog σ ε β} : (get >>= f).run s = (f s).run s := rfl

@[simp] theorem run_modify_bind {g : σ → σ} {f : Unit → Prog σ ε β} :
    (modify g >>= f).run s = (f ()).run (g s) := rfl

@[simp] theorem run_throw_bind : ((throw e : Prog σ ε α) >>= f).run s = (s, .error e) := rfl

@[simp] theorem run_lift_ok_bind : ((lift (.ok a) : Prog σ ε α) >>= f).run s = (f a).run s := rfl

@[simp] theorem run_lift_error_bind :
    ((lift (.error e) : Prog σ ε α) >>= f).run s = (s, .error e) := rfl

@[simp] theorem lift_ok_bind : (lift (.ok a) : Prog σ ε α) >>= f = f a := rfl

@[simp] theorem run_attempt_bind {f : Except ε α → Prog σ ε β} :
    (attempt x >>= f).run s = (f (x.run s).2).run (x.run s).1 := rfl

instance : LawfulMonad (Prog σ ε) :=
  LawfulMonad.mk' _
    (fun x => ext fun s => by
      show ((x >>= fun a => pure a) : Prog σ ε _).run s = _
      rw [run_bind]
      rcases x.run s with ⟨t, a | a⟩ <;> rfl)
    (fun _ _ => rfl)
    (fun x f g => ext fun s => by
      rw [run_bind, run_bind, run_bind]
      rcases x.run s with ⟨t, a | a⟩ <;> rfl)

end run

/-! ## Loops -/

section loops

variable {body : β → Prog σ ε Unit} {b : β} {l m : List β}

@[simp] theorem forEach_nil : forEach body [] = pure () := rfl

@[simp] theorem forEach_cons : forEach body (b :: l) = (do body b; forEach body l) := rfl

theorem forEach_append : forEach body (l ++ m) = (do forEach body l; forEach body m) := by
  induction l with
  | nil => simp
  | cons b l ih => simp [ih]

/-- A loop that has stopped has stopped. -/
theorem run_forEach_range_error {body : ℕ → Prog σ ε Unit} {s t : σ} {e : ε} {n m : ℕ}
    (h : (forEach body (List.range n)).run s = (t, .error e)) (hnm : n ≤ m) :
    (forEach body (List.range m)).run s = (t, .error e) := by
  obtain ⟨k, rfl⟩ := Nat.exists_eq_add_of_le hnm
  rw [List.range_add, forEach_append]
  exact run_bind_error h

/-- The last round of a loop that has gone through so far. -/
theorem run_forEach_range_succ {body : ℕ → Prog σ ε Unit} {s t : σ} {n : ℕ}
    (h : (forEach body (List.range n)).run s = (t, .ok ())) :
    (forEach body (List.range (n + 1))).run s = (body n).run t := by
  rw [List.range_succ, forEach_append, run_bind_ok h, forEach_cons, forEach_nil]
  show (body n >>= fun _ => pure ()).run t = _
  rw [bind_pure_unit]

end loops

/-! ## Pre- and postconditions -/

/-- From a state in `P`, `x` returns into `Q` or stops in `E`. -/
def Triple (P : σ → Prop) (x : Prog σ ε α) (Q : α → σ → Prop) (E : ε → σ → Prop) : Prop :=
  ∀ s, P s → match x.run s with
    | (t, .ok a) => Q a t
    | (t, .error e) => E e t

section triples

variable {P P' I : σ → Prop} {x y : Prog σ ε α} {Q Q' : α → σ → Prop} {E E' : ε → σ → Prop}

theorem Triple.of_ok (h : Triple P x Q E) {s t : σ} {a : α} (hs : P s) (hr : x.run s = (t, .ok a)) : Q a t := by
  have := h s hs
  rwa [hr] at this

theorem Triple.of_error (h : Triple P x Q E) {s t : σ} {e : ε} (hs : P s) (hr : x.run s = (t, .error e)) :
    E e t := by
  have := h s hs
  rwa [hr] at this

/-- A computation that cannot stop returns. -/
theorem Triple.returns (h : Triple P x Q fun _ _ => False) {s : σ} (hs : P s) :
    ∃ t a, x.run s = (t, .ok a) ∧ Q a t := by
  have := h s hs
  rcases hr : x.run s with ⟨t, e | a⟩ <;> rw [hr] at this
  · exact this.elim
  · exact ⟨t, a, rfl, this⟩

theorem Triple.conseq (h : Triple P x Q E) (hP : ∀ s, P' s → P s) (hQ : ∀ a s, Q a s → Q' a s)
    (hE : ∀ e s, E e s → E' e s) : Triple P' x Q' E' := by
  intro s hs
  have := h s (hP s hs)
  split <;> rename_i heq <;> rw [heq] at this
  · exact hQ _ _ this
  · exact hE _ _ this

/-- The rule of consequence on how `x` stops. -/
theorem Triple.error_mono (h : Triple P x Q E) (hE : ∀ e s, E e s → E' e s) : Triple P x Q E' :=
  h.conseq (fun _ hs => hs) (fun _ _ hs => hs) hE

/-- What does not stop may be said to stop in any way. -/
theorem Triple.safe (h : Triple P x Q fun _ _ => False) : Triple P x Q E :=
  h.error_mono fun _ _ hs => hs.elim

theorem triple_pure {a : α} (h : ∀ s, P s → Q a s) : Triple P (pure a) Q E := fun s hs => h s hs

theorem triple_throw {e : ε} (h : ∀ s, P s → E e s) : Triple P (throw e) Q E := fun s hs => h s hs

theorem triple_modify {f : σ → σ} {Q : Unit → σ → Prop} (h : ∀ s, P s → Q () (f s)) :
    Triple P (modify f) Q E := fun s hs => h s hs

theorem triple_lift {r : Except ε α} (hok : ∀ a s, r = .ok a → P s → Q a s)
    (herr : ∀ e s, r = .error e → P s → E e s) : Triple P (lift r) Q E := by
  intro s hs
  cases r with
  | ok a => exact hok a s rfl hs
  | error e => exact herr e s rfl hs

/-- **Sequence.** -/
theorem Triple.bind {f : α → Prog σ ε β} {R : β → σ → Prop} (hx : Triple P x Q E)
    (hf : ∀ a, Triple (Q a) (f a) R E) : Triple P (x >>= f) R E := by
  intro s hs
  have := hx s hs
  rw [run_bind]
  rcases hr : x.run s with ⟨t, a | a⟩ <;> rw [hr] at this
  · exact this
  · exact hf a t this

theorem triple_get_bind {f : σ → Prog σ ε α} (h : ∀ s, P s → Triple (· = s) (f s) Q E) :
    Triple P (get >>= f) Q E := fun s hs => h s hs s rfl

/-- A fact that does not depend on the state. -/
theorem triple_and_pure {φ : Prop} (h : φ → Triple P x Q E) : Triple (fun s => P s ∧ φ) x Q E :=
  fun s hs => h hs.2 s hs.1

/-- **Choice.** -/
theorem triple_ite {c : Prop} [Decidable c] (hy : c → Triple P x Q E) (hz : ¬c → Triple P y Q E) :
    Triple P (if c then x else y) Q E := by
  split
  · exact hy ‹_›
  · exact hz ‹_›

/-- **A caught stop**: what `x` did before it ended is kept, however it ended. -/
theorem Triple.attempt_bind {f : Except ε α → Prog σ ε β} {R : β → σ → Prop} (hx : Triple P x Q E')
    (hok : ∀ a, Triple (Q a) (f (.ok a)) R E) (herr : ∀ e, Triple (E' e) (f (.error e)) R E) :
    Triple P (attempt x >>= f) R E := by
  intro s hs
  have := hx s hs
  rw [run_bind, run_attempt]
  rcases hr : x.run s with ⟨t, e | a⟩ <;> rw [hr] at this
  · exact herr e t this
  · exact hok a t this

/-- **Loop rule.** -/
theorem triple_forEach {body : β → Prog σ ε Unit} {l : List β}
    (h : ∀ b ∈ l, Triple I (body b) (fun _ => I) E) : Triple I (forEach body l) (fun _ => I) E := by
  induction l with
  | nil => exact triple_pure fun _ hs => hs
  | cons b l ih =>
    rw [forEach_cons]
    exact (h b List.mem_cons_self).bind fun _ => ih fun b hb => h b (List.mem_cons_of_mem _ hb)

/-- **Loop rule on what is done**: a round takes the list done so far one further. -/
theorem triple_forEach_done {I : List β → σ → Prop} {body : β → Prog σ ε Unit} {l : List β}
    (h : ∀ done b, b ∈ l → Triple (I done) (body b) (fun _ => I (done ++ [b])) E) :
    ∀ done, Triple (I done) (forEach body l) (fun _ => I (done ++ l)) E := by
  induction l with
  | nil =>
    intro done
    rw [List.append_nil]
    exact triple_pure fun _ hs => hs
  | cons b l ih =>
    intro done
    rw [forEach_cons, show done ++ b :: l = done ++ [b] ++ l by simp]
    exact (h done b List.mem_cons_self).bind fun _ =>
      ih (fun done b hb => h done b (List.mem_cons_of_mem _ hb)) (done ++ [b])

/-- **Indexed loop rule**: round `i` takes `I i` to `I (i + 1)`. -/
theorem triple_forEach_range {I : ℕ → σ → Prop} {body : ℕ → Prog σ ε Unit} (n : ℕ)
    (h : ∀ i < n, Triple (I i) (body i) (fun _ => I (i + 1)) E) :
    Triple (I 0) (forEach body (List.range n)) (fun _ => I n) E := by
  induction n with
  | zero => exact triple_pure fun _ hs => hs
  | succ n ih =>
    rw [List.range_succ, forEach_append]
    refine (ih fun i hi => h i (by omega)).bind fun _ => ?_
    rw [forEach_cons, forEach_nil]
    exact (h n (by omega)).bind fun _ => triple_pure fun _ hs => hs

end triples

/-! ## Computations that return -/

/-- From `s`, `x` returns into `Q`. -/
def Returns (x : Prog σ ε α) (s : σ) (Q : α → σ → Prop) : Prop := ∃ t a, x.run s = (t, .ok a) ∧ Q a t

section returns

variable {x y : Prog σ ε α} {s : σ} {a : α} {Q Q' : α → σ → Prop} {R : β → σ → Prop}

theorem returns_pure (h : Q a s) : Returns (pure a : Prog σ ε α) s Q := ⟨s, a, rfl, h⟩

theorem returns_modify {f : σ → σ} {Q : Unit → σ → Prop} (h : Q () (f s)) : Returns (modify f : Prog σ ε Unit) s Q :=
  ⟨f s, (), rfl, h⟩

theorem returns_get_bind {f : σ → Prog σ ε β} (h : Returns (f s) s R) : Returns (get >>= f) s R := h

theorem returns_modify_bind {g : σ → σ} {f : Unit → Prog σ ε β} (h : Returns (f ()) (g s) R) :
    Returns (modify g >>= f) s R := h

theorem returns_lift_bind {r : Except ε α} {f : α → Prog σ ε β} (hr : r = .ok a) (h : Returns (f a) s R) :
    Returns (lift r >>= f) s R := by
  subst hr
  exact h

theorem Returns.mono (h : Returns x s Q) (hQ : ∀ a t, Q a t → Q' a t) : Returns x s Q' := by
  obtain ⟨t, a, hr, ha⟩ := h
  exact ⟨t, a, hr, hQ a t ha⟩

/-- **Sequence.** -/
theorem Returns.bind {f : α → Prog σ ε β} (hx : Returns x s Q) (hf : ∀ a t, Q a t → Returns (f a) t R) :
    Returns (x >>= f) s R := by
  obtain ⟨t, a, hr, ha⟩ := hx
  obtain ⟨u, b, hu, hb⟩ := hf a t ha
  exact ⟨u, b, by rw [run_bind_ok hr, hu], hb⟩

/-- **Loop rule on what is done.** -/
theorem returns_forEach {I : List β → σ → Prop} {body : β → Prog σ ε Unit} {l : List β}
    (h : ∀ done b rest s, l = done ++ b :: rest → I done s → Returns (body b) s fun _ => I (done ++ [b]))
    (hs : I [] s) : Returns (forEach body l) s fun _ => I l := by
  have hgo : ∀ rest done s, l = done ++ rest → I done s → Returns (forEach body rest) s fun _ => I l := by
    intro rest
    induction rest with
    | nil =>
      intro done s hl hs
      rw [List.append_nil] at hl
      subst hl
      exact returns_pure hs
    | cons b rest ih =>
      intro done s hl hs
      rw [forEach_cons]
      refine (h done b rest s hl hs).bind fun _ t ht => ih (done ++ [b]) t ?_ ht
      rw [hl, List.append_assoc]
      rfl
  exact hgo l [] s rfl hs

end returns

end Prog

end MfxProxy.Lib
