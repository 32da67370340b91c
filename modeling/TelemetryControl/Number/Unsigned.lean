/-
TelemetryControl.Number.Unsigned — naturals below a bound, read from hexadecimal digits.

A reading goes through the digits from the most significant one and stops at
the first that is none, or that takes the number to the bound. One plus sign
may stand in front of the digits, a minus sign may not.
-/
import TelemetryControl.Text.Hex

namespace TelemetryControl

/-- Why a text spells no number. -/
inductive NumberFault where
  | empty
  | invalidDigit
  /-- The number would reach the bound. -/
  | tooLarge
deriving DecidableEq, Repr

/-- The wording of a number's fault. -/
def NumberFault.message : NumberFault → String
  | empty => "cannot parse integer from empty string"
  | invalidDigit => "invalid digit found in string"
  | tooLarge => "number too large to fit in target type"

namespace Unsigned

/-- Takes in digits behind those that have come to `n` so far. -/
def takeDigits (bound n : Nat) : List Char → Except NumberFault Nat
  | [] => .ok n
  | c :: rest =>
    match Text.hexDigit? c with
    | none => .error .invalidDigit
    | some d =>
      if 16 * n + d < bound then takeDigits bound (16 * n + d) rest else .error .tooLarge

/-- The number below a bound that some characters spell. -/
def ofHex (bound : Nat) : List Char → Except NumberFault Nat
  | [] => .error .empty
  | '+' :: c :: rest => takeDigits bound 0 (c :: rest)
  | cs => takeDigits bound 0 cs

end Unsigned

end TelemetryControl
