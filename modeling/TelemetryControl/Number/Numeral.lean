/-
TelemetryControl.Number.Numeral — numbers in decimal notation.

A numeral is what stands on the page: a sign, the digits before and after
the point, and an exponent. `text` writes one. Values are found in two
ways. `nearest` is the double nearest to the number written. `stepwise` is
what a reader obtains that keeps the digits in one 64-bit word, drops the
digits that no longer fit, and then multiplies or divides by a power of ten:
it rounds up to three times, so it may miss the nearest double by a little,
and it refuses a number beyond the range.
-/
import TelemetryControl.Number.Binary64

namespace TelemetryControl

/-- A number as written in decimal. -/
structure Numeral where
  negative : Bool
  /-- The digits before the point, each below ten. -/
  whole : List Nat
  /-- The digits after the point; none when there is no point. -/
  fraction : List Nat
  /-- The exponent, where one is written. -/
  exponent : Option Int
deriving DecidableEq, Repr, Inhabited

namespace Numeral

/-! ## 1. Writing -/

/-- The decimal digits of a natural. -/
def digitsOf (n : Nat) : List Nat :=
  (Nat.toDigits 10 n).map (fun c => c.toNat - 0x30)

/-- The character of a decimal digit. -/
def digitChar (d : Nat) : Char :=
  Char.ofNat (0x30 + d)

/-- How an exponent shows its sign. -/
inductive ExponentSign where
  /-- A minus before a negative exponent, nothing before another. -/
  | minusOnly
  /-- A sign before every exponent. -/
  | always
deriving DecidableEq, Repr

/-- The characters of a numeral, with a small `e` before the exponent. -/
def chars (sign : ExponentSign) (n : Numeral) : List Char :=
  (if n.negative then ['-'] else []) ++ n.whole.map digitChar ++
    (if n.fraction.isEmpty then [] else '.' :: n.fraction.map digitChar) ++
    (match n.exponent with
      | none => []
      | some e =>
        'e' :: (if e < 0 then ['-'] else if sign = .always then ['+'] else []) ++
          (digitsOf e.natAbs).map digitChar)

/-- The text of a numeral. -/
def text (sign : ExponentSign) (n : Numeral) : String :=
  String.ofList (n.chars sign)

/-! ## 2. Reading the value -/

/-- A run of digits as a natural. -/
def ofDigits (ds : List Nat) : Nat :=
  ds.foldl (fun n d => 10 * n + d) 0

/-- Whether the numeral has neither point nor exponent. -/
def isIntegral (n : Numeral) : Bool :=
  n.fraction.isEmpty && n.exponent.isNone

/-- The double nearest to the number written. -/
def nearest (n : Numeral) : Binary64 :=
  Binary64.ofDecimal n.negative (ofDigits (n.whole ++ n.fraction))
    (n.exponent.getD 0 - n.fraction.length)

/-- The digits that fit in one 64-bit word, and the power of ten that they
are to be multiplied by. Once a digit before the point does not fit, it and
those after it up to the point count as zeros; once a digit after the point
does not fit, it and the rest are dropped. -/
def significand (n : Numeral) : Nat × Int :=
  let fits (s d : Nat) : Bool := decide (10 * s + d < Nat.pow 2 64)
  let before := n.whole.foldl (fun (s, zeros, full) d =>
    if !full && fits s d then (10 * s + d, zeros, false) else (s, zeros + 1, true))
    ((0, 0, false) : Nat × Int × Bool)
  let after := n.fraction.foldl (fun (s, e, full) d =>
    if !full && fits s d then (10 * s + d, e - 1, false) else (s, e, true))
    ((before.1, before.2.1, false) : Nat × Int × Bool)
  (after.1, after.2.1)

/-- A double scaled by a power of ten, in steps of at most 308 tens downwards;
nothing when the result is beyond the range. -/
def scale (x : Binary64) (exponent : Int) : Option Binary64 :=
  if 308 < exponent then
    if x.isZero then some x else none
  else if 0 ≤ exponent then
    let y := x.mul (.powerOfTen exponent.toNat)
    if y.isSpecial then none else some y
  else if -308 ≤ exponent then
    some (x.div (.powerOfTen (-exponent).toNat))
  else
    let y := x.div (.powerOfTen 308)
    if -616 ≤ exponent then some (y.div (.powerOfTen (-exponent - 308).toNat))
    else some (y.div (.powerOfTen 308))

/-- The double that a reader with one 64-bit significand obtains. -/
def stepwise (n : Numeral) : Option Binary64 :=
  let (s, shift) := n.significand
  let exponent := shift + n.exponent.getD 0
  (scale (.ofInt s) exponent).map (fun x => if n.negative then x.neg else x)

/-- The value of an integral numeral below 2⁶⁴ without a sign. -/
def word? (n : Numeral) : Option Nat :=
  let v := ofDigits n.whole
  if n.isIntegral && !n.negative && decide (v < Nat.pow 2 64) then some v else none

end Numeral

end TelemetryControl
