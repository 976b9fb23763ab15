import Mathlib.Data.List.TakeWhile

/-!
# C++ values and the ways a call can end

A `std::string` is a `String` (its bytes are the characters up to `U+00FF`), a
non-null `const char*` a `CStr`: the characters before the terminating zero byte, so
none of them is zero. A pointer that may be null is an `Option`.

A call that does not return ends in a `Fault`.
-/

namespace MfxProxy

/-- A zmq message, or any block of memory. -/
abbrev Bytes := List UInt8

abbrev OfxStatus := Int32

def kOfxStatOK : OfxStatus := 0
def kOfxStatFailed : OfxStatus := 1
def kOfxStatReplyDefault : OfxStatus := 14

/-- How a call can end other than by returning. -/
inductive Fault
  /-- `std::runtime_error` is thrown. -/
  | runtime_error
  /-- `zmq::error_t` is thrown. -/
  | error_t
  /-- The SDK's suite exception, thrown by `MFX_ENSURE` on a status that is not OK. -/
  | suite (status : OfxStatus)
  /-- `boost::process::process_error` is thrown. -/
  | process_error
  /-- An `assert` fails: the process aborts. -/
  | assert
  /-- A null pointer is dereferenced, or an array accessed out of its bounds. -/
  | undefined
  /-- `std::terminate` is called. -/
  | terminate
  deriving DecidableEq

/-- The process does not go on: the fault is not an exception. -/
def Fault.fatal : Fault → Bool
  | .assert | .undefined | .terminate => true
  | _ => false

/-- One of the two processes. -/
inductive Process
  | plugin
  | host
  deriving DecidableEq

/-- `assert(c)`, a no-op when the code is compiled with `NDEBUG`. -/
def cassert (ndebug : Bool) (c : Prop) [Decidable c] : Except Fault Unit :=
  if ndebug ∨ c then .ok () else .error .assert

/-- `*p` for a pointer that may be null. -/
def deref {α : Type*} : Option α → Except Fault α
  | some a => .ok a
  | none => .error .undefined

/-- The SDK's `MFX_ENSURE`: throws on a status that is not OK. -/
def MFX_ENSURE (status : OfxStatus) : Except Fault Unit :=
  if status = kOfxStatOK then .ok () else .error (.suite status)

/-- A non-null `const char*`. -/
@[ext] structure CStr where
  chars : List Char
  no_nul : '\x00' ∉ chars
  deriving DecidableEq

/-- `std::string(p)` -/
def CStr.str (p : CStr) : String := String.ofList p.chars

/-- `s.c_str()`: what follows a zero byte is not seen through it. -/
def c_str (s : String) : CStr where
  chars := s.toList.takeWhile (· ≠ '\x00')
  no_nul := fun h => by simpa using List.mem_takeWhile_imp h

@[simp] theorem c_str_str (p : CStr) : c_str p.str = p := by
  ext1
  simp only [c_str, CStr.str, String.toList_ofList, List.takeWhile_eq_self_iff]
  intro x hx
  simpa using fun h : x = '\x00' => p.no_nul (h ▸ hx)

/-- A string survives `c_str` exactly when it has no zero byte. -/
theorem str_c_str {s : String} : (c_str s).str = s ↔ '\x00' ∉ s.toList := by
  constructor
  · intro h
    rw [← h]
    simpa [CStr.str] using (c_str s).no_nul
  · intro h
    have : s.toList.takeWhile (· ≠ '\x00') = s.toList := by
      rw [List.takeWhile_eq_self_iff]
      intro x hx
      simpa using fun h' : x = '\x00' => h (h' ▸ hx)
    have hchars : (c_str s).chars = s.toList := this
    rw [CStr.str, hchars, String.ofList_toList]

end MfxProxy
