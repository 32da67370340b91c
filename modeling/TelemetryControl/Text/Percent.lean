/-
TelemetryControl.Text.Percent — octets written as percent escapes.

A percent sign with two hexadecimal digits after it stands for one octet.
Decoding never fails: a percent sign without two digits stands for itself.
-/
import TelemetryControl.Text.Ascii
import TelemetryControl.Text.Hex

namespace TelemetryControl.Text.Percent

/-- The value of an octet that is a hexadecimal digit. -/
def digit? (b : UInt8) : Option Nat :=
  hexDigit? (Char.ofNat b.toNat)

/-- The octets that a run of octets with escapes stands for. -/
def decode : List UInt8 → List UInt8
  | [] => []
  | b :: rest =>
    if b = octet '%' then
      match rest with
      | h :: l :: more =>
        match digit? h, digit? l with
        | some x, some y => (16 * x + y).toUInt8 :: decode more
        | _, _ => b :: decode (h :: l :: more)
      | rest => b :: decode rest
    else b :: decode rest
termination_by bs => bs.length

/-- One octet as an escape with upper-case digits. -/
def escape (b : UInt8) : List Char :=
  ['%'] ++ (hexDigits 2 b.toNat).map Char.toUpper

/-- The characters of a text, those of a set and all beyond ASCII escaped. -/
def encode (special : Char → Bool) (cs : List Char) : List Char :=
  cs.flatMap (fun c =>
    if special c || 0x7F ≤ c.toNat then (octets (String.singleton c)).flatMap escape else [c])

end TelemetryControl.Text.Percent
