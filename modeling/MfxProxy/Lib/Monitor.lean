import Mathlib.Data.Finset.Erase
import Mathlib.Data.Finset.Insert

/-!
# A mutex with a condition variable

The state of a mutex and of one condition variable used under it, for threads of any
type: who holds the mutex and who is blocked in a wait. Each operation is one atomic
step, `none` while it blocks or when its precondition fails. A wait releases the mutex
and blocks in one step; it ends by a notification (`notify_all`) or on its own
(`wake`: at a deadline, or spuriously), after which the thread must `lock` again.
-/

namespace MfxProxy.Lib

structure Monitor (τ : Type) where
  owner : Option τ := none
  waiting : Finset τ := ∅

namespace Monitor

variable {τ : Type} [DecidableEq τ] {m n : Monitor τ} {t : τ}

def lock (m : Monitor τ) (t : τ) : Option (Monitor τ) :=
  if m.owner = none ∧ t ∉ m.waiting then some { m with owner := some t } else none

def unlock (m : Monitor τ) (t : τ) : Option (Monitor τ) :=
  if m.owner = some t then some { m with owner := none } else none

def wait (m : Monitor τ) (t : τ) : Option (Monitor τ) :=
  if m.owner = some t then some { owner := none, waiting := insert t m.waiting } else none

def notify_all (m : Monitor τ) : Monitor τ := { m with waiting := ∅ }

def wake (m : Monitor τ) (t : τ) : Option (Monitor τ) :=
  if t ∈ m.waiting then some { m with waiting := m.waiting.erase t } else none

theorem lock_eq_some : m.lock t = some n ↔ (m.owner = none ∧ t ∉ m.waiting) ∧ n = { m with owner := some t } := by
  rw [lock, Option.ite_none_right_eq_some, Option.some.injEq, @eq_comm _ n]

theorem unlock_eq_some : m.unlock t = some n ↔ m.owner = some t ∧ n = { m with owner := none } := by
  rw [unlock, Option.ite_none_right_eq_some, Option.some.injEq, @eq_comm _ n]

theorem wait_eq_some : m.wait t = some n ↔
    m.owner = some t ∧ n = { owner := none, waiting := insert t m.waiting } := by
  rw [wait, Option.ite_none_right_eq_some, Option.some.injEq, @eq_comm _ n]

theorem wake_eq_some : m.wake t = some n ↔ t ∈ m.waiting ∧ n = { m with waiting := m.waiting.erase t } := by
  rw [wake, Option.ite_none_right_eq_some, Option.some.injEq, @eq_comm _ n]

omit [DecidableEq τ] in
@[simp] theorem notify_all_owner : m.notify_all.owner = m.owner := rfl

end Monitor

end MfxProxy.Lib
