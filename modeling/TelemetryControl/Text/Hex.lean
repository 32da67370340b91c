/-
TelemetryControl.Text.Hex — hexadecimal digits.

One digit each way, and a run of digits read as a number with the most
significant digit first. Both cases are read, lower case is written.
-/

namespace TelemetryControl.Text

/-- The value of a hexadecimal digit in either case. -/
def hexDigit? (c : Char) : Option Nat :=
  let n := c.toNat
  if 0x30 ≤ n && n ≤ 0x39 then some (n - 0x30)
  else if 0x61 ≤ n && n ≤ 0x66 then some (n - 0x61 + 10)
  else if 0x41 ≤ n && n ≤ 0x46 then some (n - 0x41 + 10)
  else none

/-- Whether an octet is a hexadecimal digit. -/
def isHexOctet (b : UInt8) : Bool :=
  (hexDigit? (Char.ofNat b.toNat)).isSome

/-- The lower-case digit of a value below sixteen. -/
def hexChar (d : Nat) : Char :=
  if d < 10 then Char.ofNat (0x30 + d) else Char.ofNat (0x61 + (d - 10))

/-- The number that a run of digits spells, most significant first. -/
def ofHexDigits? (cs : List Char) : Option Nat :=
  cs.foldlM (fun n c => (hexDigit? c).map (16 * n + ·)) 0

/-- A number in exactly `width` lower-case digits, higher digits dropped. -/
def hexDigits : Nat → Nat → List Char
  | 0, _ => []
  | width + 1, n => hexDigits width (n / 16) ++ [hexChar (n % 16)]

end TelemetryControl.Text
