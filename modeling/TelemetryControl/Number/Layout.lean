/-
TelemetryControl.Number.Layout — the ways in which a double is written.

Everything the agent writes about a double starts from its shortest decimal
and differs only in layout: where exponents take over from plain digits,
whether a whole number shows a `.0`, how an exponent shows its sign. A
`Layout` holds these choices, and the three layouts in use stand below. The
sampler's description instead has a fixed number of places, written from
the exact value.
-/
import TelemetryControl.Number.Shortest

namespace TelemetryControl

/-- The choices in writing a double. -/
structure Layout where
  /-- The least leading exponent that is written with plain digits; no bound
  if none. -/
  plainFrom : Option Int
  /-- The first leading exponent too large for plain digits; no bound if none. -/
  plainBelow : Option Int
  /-- Whether whole numbers in plain digits end in `.0`. -/
  pointZero : Bool
  sign : Numeral.ExponentSign
  tie : Tie
deriving Repr

namespace Layout

/-- Messages for people: plain digits at every size. -/
def plain : Layout := ⟨none, none, false, .minusOnly, .up⟩

/-- Fields of log events: exponents below 10⁻⁴ and from 10¹⁶. -/
def field : Layout := ⟨some (-4), some 16, true, .minusOnly, .up⟩

/-- JSON: exponents below 10⁻⁵ and from 10¹⁶, always with a sign. -/
def json : Layout := ⟨some (-5), some 16, true, .always, .even⟩

/-- The numeral of a decimal in this layout. -/
def ofDecimal (l : Layout) (negative : Bool) (d : Decimal) : Numeral :=
  let ds := Numeral.digitsOf d.digits
  let lead := d.exponent + ds.length - 1
  let plainDigits := l.plainFrom.all (· ≤ lead) && l.plainBelow.all (lead < ·)
  if plainDigits then
    if 0 ≤ d.exponent then
      ⟨negative, ds ++ List.replicate d.exponent.toNat 0, if l.pointZero then [0] else [], none⟩
    else if 0 ≤ lead then
      ⟨negative, ds.take (lead.toNat + 1), ds.drop (lead.toNat + 1), none⟩
    else
      ⟨negative, [0], List.replicate (-lead - 1).toNat 0 ++ ds, none⟩
  else
    ⟨negative, ds.take 1, ds.drop 1, some lead⟩

/-- The numeral of a finite double in this layout. -/
def numeral (l : Layout) (x : Binary64) : Numeral :=
  if x.isZero then ⟨x.negative, [0], if l.pointZero then [0] else [], none⟩
  else l.ofDecimal x.negative (x.shortest l.tie)

/-- The text of a double in this layout. -/
def write (l : Layout) (x : Binary64) : String :=
  if x.isNaN then "NaN"
  else if x.isInfinite then if x.negative then "-inf" else "inf"
  else (l.numeral x).text l.sign

end Layout

namespace Binary64

/-- A finite double with a fixed number of places, rounded from its exact
value with a half going to the even digit; a zero keeps its sign. -/
def fixedPlaces (places : Nat) (x : Binary64) : String :=
  let scaled := divHalfEven (x.units * Nat.pow 10 places) unitsPerOne
  let ds := Numeral.digitsOf scaled
  let padded := List.replicate (places + 1 - ds.length) 0 ++ ds
  let cut := padded.length - places
  Numeral.text .minusOnly ⟨x.negative, padded.take cut, padded.drop cut, none⟩

end Binary64

end TelemetryControl
