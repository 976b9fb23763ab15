import Mathlib.Data.List.Basic

/-!
# Blocks of memory

A block is a list of a fixed length. Accesses that do not stay inside it are `none`.

* `write m off src`: `src` is copied over `m` from the offset `off` on.
* `read m off n`: the `n` entries from the offset `off` on.
* `tail m off`: what a pointer to the offset `off` sees.
* `fill`: two adjacent copies that cover a block leave nothing of what was there.
-/

namespace MfxProxy.Lib.Block

variable {α : Type*} {m a b p q r src : List α} {off n : ℕ}

def write (m : List α) (off : ℕ) (src : List α) : Option (List α) :=
  if off + src.length ≤ m.length then some (m.take off ++ src ++ m.drop (off + src.length)) else none

def read (m : List α) (off n : ℕ) : Option (List α) :=
  if off + n ≤ m.length then some ((m.drop off).take n) else none

def tail (m : List α) (off : ℕ) : Option (List α) :=
  if off ≤ m.length then some (m.drop off) else none

/-- A copy replaces the part of the block it is as long as. -/
theorem write_block (hq : q.length = src.length) :
    write (p ++ q ++ r) p.length src = some (p ++ src ++ r) := by
  have hlen : p.length + src.length ≤ (p ++ q ++ r).length := by
    simp only [List.length_append]
    omega
  have htake : (p ++ q ++ r).take p.length = p := by
    rw [List.append_assoc, List.take_left]
  have hdrop : (p ++ q ++ r).drop (p.length + src.length) = r := by
    rw [← hq, ← List.length_append, List.drop_left]
  rw [write, if_pos hlen, htake, hdrop]

/-- **Two adjacent copies fill a block** of their joint length, whatever was in it. -/
theorem fill (hm : m.length = a.length + b.length) :
    (write m 0 a).bind (fun m => write m a.length b) = some (a ++ b) := by
  have hp : (m.take a.length).length = a.length := by simp [hm]
  have hq : (m.drop a.length).length = b.length := by simp [hm]
  have hfirst : write m 0 a = some (a ++ m.drop a.length) := by
    have := write_block (p := []) (r := m.drop a.length) hp
    simpa using this
  have hsecond : write (a ++ m.drop a.length) a.length b = some (a ++ b) := by
    have := write_block (p := a) (r := []) hq
    simpa using this
  rw [hfirst, Option.bind_some, hsecond]

theorem read_eq_none : read m off n = none ↔ m.length < off + n := by simp [read]

theorem read_of_le (h : off + n ≤ m.length) : read m off n = some ((m.drop off).take n) := if_pos h

theorem tail_of_le (h : off ≤ m.length) : tail m off = some (m.drop off) := if_pos h

end MfxProxy.Lib.Block
