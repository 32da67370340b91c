/-
TelemetryControl.Text.Quoted — texts shown between quotes.

Console lines and shown errors put texts between double quotes. Inside, a
quote and a backslash get a backslash, the common control characters get
their letter, and every other character that would not show by itself is
written as its code point.
-/
import TelemetryControl.Text.Hidden

namespace TelemetryControl.Text.Quoted

/-- The hexadecimal digits of a natural without leading zeros. -/
def shortHex (n : Nat) : List Char :=
  Nat.toDigits 16 n

/-- One character between the quotes. -/
def escape (c : Char) : List Char :=
  if c = '"' then ['\\', '"']
  else if c = '\\' then ['\\', '\\']
  else if c = '\n' then ['\\', 'n']
  else if c = '\r' then ['\\', 'r']
  else if c = '\t' then ['\\', 't']
  else if c.toNat = 0 then ['\\', '0']
  else if isHidden c then ['\\', 'u', '\x7b'] ++ shortHex c.toNat ++ ['\x7d']
  else [c]

/-- A text between quotes. -/
def quote (s : String) : String :=
  String.ofList ('"' :: s.toList.flatMap escape ++ ['"'])

end TelemetryControl.Text.Quoted
