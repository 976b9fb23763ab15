import MfxProxy.Lib.Words

/-!
# Self-delimiting byte formats

A `Codec α` writes values as bytes and reads them back, whatever bytes follow: the
round trip is a field, so a format that is not self-delimiting cannot be built. The
combinators build a format for pairs, options, lists and tagged unions from formats
for their parts.
-/

namespace MfxProxy.Lib

/-- A byte format with its round trip. -/
structure Codec (α : Type*) where
  write : α → List UInt8
  read : List UInt8 → Option (α × List UInt8)
  read_write : ∀ a r, read (write a ++ r) = some (a, r)

namespace Codec

variable {α β ι : Type*}

/-- Values written through another type. -/
def via (c : Codec α) (f : β → α) (g : α → Option β) (h : ∀ b, g (f b) = some b) : Codec β where
  write b := c.write (f b)
  read l := (c.read l).bind fun (a, r) => (g a).map fun b => (b, r)
  read_write b r := by simp [c.read_write, h]

def byte : Codec UInt8 where
  write b := [b]
  read
    | [] => none
    | b :: r => some (b, r)
  read_write _ _ := rfl

/-- Four bytes, least significant first. -/
def word : Codec UInt32 where
  write n := wordBytes .little n
  read l := if l.length < 4 then none else some (wordOf .little (l.take 4), l.drop 4)
  read_write n r := by
    have h : (wordBytes .little n).length = 4 := wordBytes_length _ _
    have hlen : ¬ (wordBytes .little n ++ r).length < 4 := by simp
    rw [if_neg hlen]
    conv_lhs => rw [← h, List.take_left, List.drop_left, wordOf_wordBytes]

def empty : Codec Empty where
  write := Empty.elim
  read _ := none
  read_write := fun e => e.elim

def unit : Codec Unit where
  write _ := []
  read l := some ((), l)
  read_write _ _ := rfl

/-- One value after the other. -/
def pair (c : Codec α) (d : Codec β) : Codec (α × β) where
  write p := c.write p.1 ++ d.write p.2
  read l := (c.read l).bind fun (a, r) => (d.read r).map fun (b, r) => ((a, b), r)
  read_write p r := by simp [c.read_write, d.read_write]

/-- A tag, then the value of the tagged type. -/
def tagged {β : ι → Type*} (t : Codec ι) (c : ∀ i, Codec (β i)) : Codec ((i : ι) × β i) where
  write p := t.write p.1 ++ (c p.1).write p.2
  read l := (t.read l).bind fun (i, r) => ((c i).read r).map fun (b, r) => (⟨i, b⟩, r)
  read_write p r := by simp [t.read_write, (c p.1).read_write]

/-- A byte that says whether a value follows. -/
def option (c : Codec α) : Codec (Option α) where
  write
    | none => [0]
    | some a => 1 :: c.write a
  read
    | [] => none
    | b :: r => if b = 0 then some (none, r) else (c.read r).map fun (a, r) => (some a, r)
  read_write a r := by
    cases a with
    | none => simp
    | some a => simp [c.read_write]

/-- Read `n` values. -/
def readN (c : Codec α) : ℕ → List UInt8 → Option (List α × List UInt8)
  | 0, l => some ([], l)
  | n + 1, l => (c.read l).bind fun (a, r) => (c.readN n r).map fun (as, r) => (a :: as, r)

theorem readN_write (c : Codec α) (as : List α) (r : List UInt8) :
    c.readN as.length (as.flatMap c.write ++ r) = some (as, r) := by
  induction as with
  | nil => rfl
  | cons a as ih => simp [readN, List.append_assoc, c.read_write, ih]

/-- The number of leading `1` bytes, and what follows the byte after them. -/
def readCount : List UInt8 → ℕ × List UInt8
  | [] => (0, [])
  | b :: r => if b = 1 then ((readCount r).1 + 1, (readCount r).2) else (0, r)

theorem readCount_write (n : ℕ) (r : List UInt8) : readCount (List.replicate n 1 ++ 0 :: r) = (n, r) := by
  induction n with
  | zero => rfl
  | succ n ih => simp [List.replicate_succ, readCount, ih]

/-- A list after its length in unary. -/
def list (c : Codec α) : Codec (List α) where
  write as := List.replicate as.length 1 ++ 0 :: as.flatMap c.write
  read l := c.readN (readCount l).1 (readCount l).2
  read_write as r := by
    rw [List.append_assoc, List.cons_append, readCount_write]
    exact c.readN_write as r

end Codec

end MfxProxy.Lib
