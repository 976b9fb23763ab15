import MfxProxy.Lib.Words
import MfxProxy.Spec.Mockup.Message

/-!
# A Python to run the mockup on

`Python.reference` has the default limit on digits and writes and reads the part of JSON
that the mockup uses: dictionaries of strings and of lists of strings. Strings of
printable ASCII characters without quotes and backslashes are written as `json.dumps`
writes them; every other character is escaped in a format of its own.
-/

namespace MfxProxy.Mockup

open Lib

namespace Reference

/-! ## Strings -/

def plain (c : Char) : Bool := 32 ≤ c.toNat ∧ c.toNat < 127 ∧ c ≠ '"' ∧ c ≠ '\\'

/-- The six lowest hexadecimal digits of a character, after a backslash. -/
def escape (c : Char) : List Char := '\\' :: (lowDigits 16 6 c.toNat).map Nat.digitChar

def writeString (s : List Char) : List Char := '"' :: s.flatMap (fun c => if plain c then [c] else escape c) ++ ['"']

def hexValue (c : Char) : ℕ := if c.isDigit then c.toNat - 48 else c.toNat - 87

/-- The characters up to a closing quote, and what follows it. -/
def readChars : List Char → Option (List Char × List Char)
  | [] => none
  | '"' :: r => some ([], r)
  | '\\' :: a :: b :: c :: d :: e :: f :: r =>
    (readChars r).map fun p => (Char.ofNat (Nat.ofDigits 16 ([a, b, c, d, e, f].map hexValue)) :: p.1, p.2)
  | c :: r => (readChars r).map fun p => (c :: p.1, p.2)

def readString : List Char → Option (List Char × List Char)
  | '"' :: r => readChars r
  | _ => none

/-! ## Items between brackets -/

def writeItems {α : Type} (write : α → List Char) (close : Char) : List α → List Char
  | [] => [close]
  | [a] => write a ++ [close]
  | a :: b :: l => write a ++ ',' :: ' ' :: writeItems write close (b :: l)

/-- At most `n` items, at least one, and what follows the closing bracket. -/
def readItems {α : Type} (read : List Char → Option (α × List Char)) (close : Char) :
    ℕ → List Char → Option (List α × List Char)
  | 0, _ => none
  | n + 1, l =>
    match read l with
    | some (a, ',' :: ' ' :: r) => (readItems read close n r).map fun p => (a :: p.1, p.2)
    | some (a, c :: r) => if c = close then some ([a], r) else none
    | _ => none

/-! ## Values and dictionaries -/

/-- The strings of a list of strings. -/
def strings (l : List Json) : List (List Char) :=
  l.filterMap fun
    | .str s => some s.toList
    | _ => none

def writeValue : Json → List Char
  | .str s => writeString s.toList
  | .list l => '[' :: writeItems writeString ']' (strings l)
  | _ => []

def readValue : List Char → Option (Json × List Char)
  | '[' :: r =>
    (readItems readString ']' r.length r).map fun p => (.list (p.1.map fun s => .str (String.ofList s)), p.2)
  | l => (readString l).map fun p => (.str (String.ofList p.1), p.2)

def writeMember (m : String × Json) : List Char := writeString m.1.toList ++ ':' :: ' ' :: writeValue m.2

def readMember (l : List Char) : Option ((String × Json) × List Char) :=
  match readString l with
  | some (key, ':' :: ' ' :: r) => (readValue r).map fun p => ((String.ofList key, p.1), p.2)
  | _ => none

def dumps : Json → List Char
  | .dict l => '{' :: writeItems writeMember '}' l
  | d => writeValue d

def loads (b : Bytes) : Except PyError Json :=
  match asciiText b with
  | some ('{' :: r) =>
    match readItems readMember '}' r.length r with
    | some (l, []) => .ok (.dict l)
    | _ => .error .ValueError
  | _ => .error .ValueError

end Reference

def Python.reference : Python where
  int_max_str_digits := 4300
  threshold := by omega
  dumps d := String.ofList (Reference.dumps d)
  loads := Reference.loads

end MfxProxy.Mockup
