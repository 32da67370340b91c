/-
TelemetryControl.Number.Binary64 — double-precision numbers as exact integers.

A sample ratio is a double, and the sampler's cut point, the texts written
for it and the range check are all decided exactly. So a double is its 64
bits here, and every question about its size is asked of `units`: the
magnitude counted in multiples of 2⁻¹⁰⁷⁴, the least positive double. Every
finite double is a whole number of units, and 1.0 is `unitsPerOne` of them.

Arithmetic rounds once: `ofRatio` gives the double nearest to a quotient of
naturals, ties to the even one, and multiplication and division go through
it.
-/

namespace TelemetryControl

/-- A double, by its bits. -/
structure Binary64 where
  bits : UInt64
deriving DecidableEq, Repr, Inhabited

namespace Binary64

/-! ## 1. Fields and magnitude -/

/-- The sign bit. -/
def negative (x : Binary64) : Bool :=
  decide (Nat.pow 2 63 ≤ x.bits.toNat)

/-- The eleven exponent bits. -/
def exponentField (x : Binary64) : Nat :=
  x.bits.toNat / Nat.pow 2 52 % Nat.pow 2 11

/-- The 52 fraction bits. -/
def fractionField (x : Binary64) : Nat :=
  x.bits.toNat % Nat.pow 2 52

/-- All exponent bits set: an infinity or no number. -/
def isSpecial (x : Binary64) : Bool :=
  x.exponentField == 2047

def isNaN (x : Binary64) : Bool :=
  x.isSpecial && x.fractionField != 0

def isInfinite (x : Binary64) : Bool :=
  x.isSpecial && x.fractionField == 0

/-- The magnitude of a finite double in units of 2⁻¹⁰⁷⁴. A special value gets
more units than any finite one. -/
def units (x : Binary64) : Nat :=
  if x.exponentField = 0 then x.fractionField
  else (Nat.pow 2 52 + x.fractionField) * Nat.pow 2 (x.exponentField - 1)

/-- How many units make 1.0. -/
def unitsPerOne : Nat := Nat.pow 2 1074

/-- Zero of either sign. -/
def isZero (x : Binary64) : Bool :=
  x.units == 0

/-- The doubles from 0 to 1, the zero of either sign among them. -/
def InUnitInterval (x : Binary64) : Prop :=
  x.units ≤ unitsPerOne ∧ (x.negative = true → x.units = 0)

instance (x : Binary64) : Decidable x.InUnitInterval :=
  inferInstanceAs (Decidable (_ ∧ _))

/-! ## 2. Rounding -/

/-- A quotient rounded to the nearest natural, a half to the even one. -/
def divHalfEven (n d : Nat) : Nat :=
  let q := n / d
  let r := n % d
  if 2 * r < d then q else if d < 2 * r then q + 1 else q + q % 2

/-- A quotient rounded to the nearest natural, a half upwards. -/
def divHalfUp (n d : Nat) : Nat :=
  (2 * n + d) / (2 * d)

/-- The bits of positive infinity. -/
def infinityBits : Nat := 2047 * Nat.pow 2 52

/-- The bits of the double nearest to the quotient `n / d`. With `e` chosen so
that the significand has 53 bits, or with `e = 0` in the lowest binades, the
double has `e` in its exponent field over a significand whose leading bit
carries one more into that field. -/
def nearestBits (n d : Nat) : Nat :=
  let scaled := n * unitsPerOne
  let e := (scaled / d).log2 - 52
  min (e * Nat.pow 2 52 + divHalfEven scaled (d * Nat.pow 2 e)) infinityBits

/-- A double from a sign and the bits of its magnitude. -/
def ofMagnitude (negative : Bool) (magnitude : Nat) : Binary64 :=
  ⟨(magnitude + if negative then Nat.pow 2 63 else 0).toUInt64⟩

/-- The double nearest to a signed quotient, infinity beyond the range. -/
def ofRatio (negative : Bool) (n d : Nat) : Binary64 :=
  ofMagnitude negative (nearestBits n d)

/-- The double nearest to an integer. -/
def ofInt (i : Int) : Binary64 :=
  ofRatio (decide (i < 0)) i.natAbs 1

/-- The double nearest to `significand · 10 ^ exponent`. Exponents far out of
the range of doubles are settled by their size alone. -/
def ofDecimal (negative : Bool) (significand : Nat) (exponent : Int) : Binary64 :=
  if significand = 0 then ofMagnitude negative 0
  else if 400 < exponent then ofMagnitude negative infinityBits
  else if exponent + (significand.log2 : Int) < -1200 then ofMagnitude negative 0
  else if 0 ≤ exponent then ofRatio negative (significand * Nat.pow 10 exponent.toNat) 1
  else ofRatio negative significand (Nat.pow 10 (-exponent).toNat)

/-! ## 3. Arithmetic -/

/-- The product, rounded. -/
def mul (x y : Binary64) : Binary64 :=
  ofRatio (x.negative != y.negative) (x.units * y.units) (unitsPerOne * unitsPerOne)

/-- The quotient by a divisor that is not zero, rounded. -/
def div (x y : Binary64) : Binary64 :=
  ofRatio (x.negative != y.negative) x.units y.units

/-- The power of ten, rounded. -/
def powerOfTen (k : Nat) : Binary64 :=
  ofRatio false (Nat.pow 10 k) 1

/-- The same magnitude with the other sign. -/
def neg (x : Binary64) : Binary64 :=
  ⟨x.bits ^^^ (0x8000000000000000 : UInt64)⟩

def zero : Binary64 := ⟨0⟩

def one : Binary64 := ⟨0x3FF0000000000000⟩

def half : Binary64 := ⟨0x3FE0000000000000⟩

def infinity : Binary64 := ⟨0x7FF0000000000000⟩

def notANumber : Binary64 := ⟨0x7FF8000000000000⟩

end Binary64

end TelemetryControl
