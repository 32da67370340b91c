/-
TelemetryControl.Text.Ascii — texts compared and classified in ASCII alone.

Level names, the spelling of the root logger, URL schemes and file
extensions are matched without regard to case, and in each of these places
only the letters A to Z have a second case. The functions on octets serve
the payload formats, whose grammars are written in ASCII.
-/

namespace TelemetryControl.Text

/-- The characters of a text with A to Z brought to lower case. -/
def lowerChars (s : String) : List Char :=
  s.toList.map Char.toLower

/-- A text with A to Z brought to lower case and all else kept. -/
def lower (s : String) : String :=
  String.ofList (lowerChars s)

/-- Equality up to the case of ASCII letters. -/
def sameLetters (s t : String) : Bool :=
  lowerChars s == lowerChars t

/-- The octet of an ASCII character. -/
def octet (c : Char) : UInt8 :=
  c.toNat.toUInt8

/-- Space, tab, line feed, form feed and carriage return. -/
def isAsciiSpace (b : UInt8) : Bool :=
  b == 0x20 || b == 0x09 || b == 0x0A || b == 0x0C || b == 0x0D

/-- The value of an octet that is a decimal digit. -/
def digit? (b : UInt8) : Option Nat :=
  if 0x30 ≤ b && b ≤ 0x39 then some (b.toNat - 0x30) else none

/-- The octets of a text in UTF-8. -/
def octets (s : String) : List UInt8 :=
  s.toUTF8.toList

/-- The text that a list of octets spells in UTF-8, if it spells one. -/
def ofOctets? (bs : List UInt8) : Option String :=
  String.fromUTF8? ⟨bs.toArray⟩

end TelemetryControl.Text
