/-
TelemetryControl.Number.Shortest — the shortest decimal that reads back.

Among the decimals that round to a given double, `shortest` takes one with
the fewest digits, and of those the one nearest to the double. All of it is
integer arithmetic: with the double, the two ends of the interval that
rounds to it, and the decimal grid of a given number of digits brought to a
common denominator, a grid point is either inside the interval or not. If
any point of a grid is inside, one of the two neighbours of the double on
that grid is, so only those two are tested.
-/
import TelemetryControl.Number.Numeral

namespace TelemetryControl

/-- A positive decimal: `digits · 10 ^ exponent`. -/
structure Decimal where
  digits : Nat
  exponent : Int
deriving DecidableEq, Repr, Inhabited

/-- Which of two equally near decimals is taken. -/
inductive Tie where
  | up
  | even
deriving DecidableEq, Repr

namespace Binary64

/-- How many decimal digits a natural has. -/
def decimalLength (n : Nat) : Nat :=
  (Nat.toDigits 10 n).length

/-- The exponent `k` with `10 ^ k ≤ n / d < 10 ^ (k + 1)`. -/
def leadingExponent (n d : Nat) : Int :=
  if d ≤ n then (decimalLength (n / d) : Int) - 1
  else -(decimalLength ((d + n - 1) / n - 1) : Int)

/-- The interval of quarter units that rounds to a double: its lower end, the
double itself and its upper end. Below a power of two the spacing halves. -/
def roundingInterval (x : Binary64) : Nat × Nat × Nat :=
  let step := Nat.pow 2 (x.exponentField - 1)
  let below := if x.fractionField = 0 ∧ 1 < x.exponentField then step else 2 * step
  (4 * x.units - below, 4 * x.units, 4 * x.units + 2 * step)

/-- The neighbour of the double on the grid of multiples of `10 ^ grid` that
lies in its interval, the nearer one if both do. -/
def gridHit? (tie : Tie) (x : Binary64) (grid : Int) : Option Nat :=
  let (low, mid, high) := x.roundingInterval
  let p := if 0 ≤ grid then Nat.pow 10 grid.toNat * (4 * unitsPerOne) else 4 * unitsPerOne
  let q := if 0 ≤ grid then 1 else Nat.pow 10 (-grid).toNat
  let closed := x.fractionField % 2 = 0
  let inside (c : Nat) : Bool :=
    if closed then decide (low * q ≤ c * p ∧ c * p ≤ high * q)
    else decide (low * q < c * p ∧ c * p < high * q)
  let c := mid * q / p
  let down := mid * q - c * p
  let up := (c + 1) * p - mid * q
  match inside c, inside (c + 1) with
  | true, true =>
    if down < up then some c
    else if up < down then some (c + 1)
    else match tie with
      | .up => some (c + 1)
      | .even => some (c + c % 2)
  | true, false => some c
  | false, true => some (c + 1)
  | false, false => none

/-- A decimal without trailing zeros among its digits. -/
def dropZeros : Nat → Decimal → Decimal
  | 0, d => d
  | n + 1, d =>
    if d.digits % 10 = 0 ∧ d.digits ≠ 0 then dropZeros n ⟨d.digits / 10, d.exponent + 1⟩ else d

/-- The shortest decimal that reads back as a finite double other than zero;
seventeen digits always do. -/
def shortest (tie : Tie) (x : Binary64) : Decimal :=
  let lead := leadingExponent x.units unitsPerOne
  let grids := (List.range 17).map (fun (n : Nat) => lead - n)
  match grids.findSome? (fun g => (x.gridHit? tie g).map (fun c => Decimal.mk c g)) with
  | some d => dropZeros 18 d
  | none => ⟨0, 0⟩

end Binary64

end TelemetryControl
