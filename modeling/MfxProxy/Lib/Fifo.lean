import Mathlib.Data.List.Basic

/-!
# Lossless first-in first-out queues

A `Fifo` keeps what has been taken from it next to what still waits, so everything
ever put into it is `taken ++ waiting` (`sent`) by construction: a queue that loses,
repeats or reorders an element cannot be built from `put` and `take`.
-/

namespace MfxProxy.Lib

/-- A queue with its history. -/
structure Fifo (α : Type*) where
  taken : List α := []
  waiting : List α := []
  deriving DecidableEq

namespace Fifo

variable {α : Type*}

/-- Everything put into the queue so far, in order. -/
def sent (q : Fifo α) : List α := q.taken ++ q.waiting

/-- Add an element at the end. -/
def put (q : Fifo α) (x : α) : Fifo α := { q with waiting := q.waiting ++ [x] }

/-- Take the oldest waiting element, if there is one. -/
def take (q : Fifo α) : Option (α × Fifo α) :=
  match q.waiting with
  | [] => none
  | x :: xs => some (x, { taken := q.taken ++ [x], waiting := xs })

variable {q q' : Fifo α} {x : α}

@[simp] theorem put_taken : (q.put x).taken = q.taken := rfl

@[simp] theorem put_waiting : (q.put x).waiting = q.waiting ++ [x] := rfl

@[simp] theorem put_sent : (q.put x).sent = q.sent ++ [x] := by simp [sent]

theorem take_eq_some : q.take = some (x, q') ↔
    q.waiting = x :: q'.waiting ∧ q'.taken = q.taken ++ [x] := by
  rcases q with ⟨ts, _ | ⟨y, ys⟩⟩
  · simp [take]
  · rcases q' with ⟨ts', ys'⟩
    simp only [take, Option.some.injEq, Prod.mk.injEq, Fifo.mk.injEq, List.cons.injEq]
    constructor
    · rintro ⟨rfl, rfl, rfl⟩; simp
    · rintro ⟨⟨rfl, rfl⟩, rfl⟩; simp

/-- Taking does not change what was sent. -/
theorem sent_of_take (h : q.take = some (x, q')) : q'.sent = q.sent := by
  obtain ⟨hw, ht⟩ := take_eq_some.1 h
  simp [sent, hw, ht]

end Fifo

end MfxProxy.Lib
