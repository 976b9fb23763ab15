import MfxProxy.Lib.Text
import MfxProxy.Spec.Basic

/-!
# The messages of the Python mockup

`main.Message` with its codec. A Python `str` is a `String` and a `bytes` a `Bytes`; an
exception is a `PyError`, by its built-in class (the Unicode and JSON decoding errors are
`ValueError`s).

`Python` is what the codec takes from the interpreter: the `json` module and the limit on
the digits of a number that is converted to or from text.
-/

namespace MfxProxy.Mockup

open Lib

inductive PyError
  | ValueError
  | KeyError
  | IndexError
  | TypeError
  | RuntimeError
  deriving DecidableEq

/-- What `json` reads and writes. A float is carried by its 64 bits; the keys of a `dict`
are in the order of their insertion. -/
inductive Json
  | None
  | bool (b : Bool)
  | int (n : ℤ)
  | float (bits : UInt64)
  | str (s : String)
  | list (l : List Json)
  | dict (l : List (String × Json))

/-- `d[key]` -/
def Json.getitem (d : Json) (key : String) : Except PyError Json :=
  match d with
  | .dict l =>
    match l.lookup key with
    | some value => .ok value
    | none => .error .KeyError
  | _ => .error .TypeError

structure Python where
  /-- `sys.get_int_max_str_digits()`; zero is no limit. -/
  int_max_str_digits : ℕ
  /-- `sys.set_int_max_str_digits` takes no lower limit. -/
  threshold : int_max_str_digits = 0 ∨ 640 ≤ int_max_str_digits
  /-- `json.dumps` -/
  dumps : Json → String
  /-- `json.loads`, on bytes. -/
  loads : Bytes → Except PyError Json

/-- `s.encode("ascii")` -/
def encode_ascii (s : String) : Except PyError Bytes :=
  match asciiBytes s.toList with
  | some b => .ok b
  | none => .error .ValueError

/-- `b.decode("ascii")` -/
def decode_ascii (b : Bytes) : Except PyError String :=
  match asciiText b with
  | some l => .ok (String.ofList l)
  | none => .error .ValueError

/-- `l[i]` for an index from the start. -/
def getitem {α : Type} (l : List α) (i : ℕ) : Except PyError α :=
  match l[i]? with
  | some a => .ok a
  | none => .error .IndexError

/-- The white space that `int` skips around an ASCII literal. The separators `\x1c` to `\x1f`,
which `str.isspace` counts as well, are not among it. -/
def isSpace (c : Char) : Bool := c.toNat = 32 ∨ (9 ≤ c.toNat ∧ c.toNat ≤ 13)

/-- The digits of a literal, in which single underscores may stand between digits. -/
def literalDigits : List Char → Option (List Char)
  | [] => none
  | [c] => if c.isDigit then some [c] else none
  | c :: '_' :: l => if c.isDigit then (literalDigits l).map (c :: ·) else none
  | c :: d :: l => if c.isDigit then (literalDigits (d :: l)).map (c :: ·) else none

/-- The sign of a literal, and what follows it. -/
def literalSign : List Char → ℤ × List Char
  | '-' :: l => (-1, l)
  | '+' :: l => (1, l)
  | l => (1, l)

namespace Python

variable (py : Python)

/-- A number with this many digits is converted. -/
def Converts (digits : ℕ) : Prop := py.int_max_str_digits = 0 ∨ digits ≤ py.int_max_str_digits

instance (digits : ℕ) : Decidable (py.Converts digits) := inferInstanceAs (Decidable (_ ∨ _))

/-- `f"{n:08d}"`: a sign counts for the width. -/
def format_08d (n : ℤ) : Except PyError String :=
  if py.Converts (Nat.toDigits 10 n.natAbs).length then
    .ok (String.ofList (if n < 0 then '-' :: padded 7 n.natAbs else padded 8 n.natAbs))
  else .error .ValueError

/-- `int(s)` -/
def int (s : String) : Except PyError ℤ :=
  let l := ((s.toList.dropWhile isSpace).reverse.dropWhile isSpace).reverse
  match literalDigits (literalSign l).2 with
  | some digits =>
    if py.Converts digits.length then .ok ((literalSign l).1 * Nat.ofDigitChars 10 digits 0) else .error .ValueError
  | none => .error .ValueError

end Python

/-! ## `Message` -/

inductive MessageType
  | ActionDescribeStart
  | ActionDescribeEnd
  deriving DecidableEq

namespace MessageType

/-- The value of the enumeration member, which is also how it is formatted. -/
def value : MessageType → String
  | .ActionDescribeStart => "ActionDescribeStart"
  | .ActionDescribeEnd => "ActionDescribeEnd"

/-- `MessageType(value)` -/
def ofValue (s : String) : Except PyError MessageType :=
  if s = value .ActionDescribeStart then .ok .ActionDescribeStart
  else if s = value .ActionDescribeEnd then .ok .ActionDescribeEnd
  else .error .ValueError

end MessageType

structure Message where
  instance_id : ℤ
  type_ : MessageType
  data : Json

namespace Message

variable (py : Python)

def get_instance_prefix (instance_id : ℤ) : Except PyError Bytes := do
  let prefix_ ← py.format_08d instance_id
  encode_ascii prefix_

def to_bytes (self : Message) : Except PyError Bytes := do
  let instance_id ← py.format_08d self.instance_id
  encode_ascii (instance_id ++ "-" ++ self.type_.value ++ "-" ++ py.dumps self.data)

def from_bytes (s : Bytes) : Except PyError Message := do
  -- at most two cuts: a `-` in the data stays
  let tmp := splitMax 45 2 s
  let instance_id ← py.int (← decode_ascii (← getitem tmp 0))
  let type_ ← MessageType.ofValue (← decode_ascii (← getitem tmp 1))
  let data ← py.loads (← getitem tmp 2)
  return { instance_id := instance_id, type_ := type_, data := data }

end Message

end MfxProxy.Mockup
