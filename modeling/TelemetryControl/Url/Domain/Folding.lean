/-
TelemetryControl.Url.Domain.Folding — what the characters of a host name count as.

Names are compared without regard to case and to the many shapes in which a
character comes: capitals count as small letters, letters of full width or in
circles as plain ones, and ligatures as the letters in them. Some characters
count for nothing, and some may not stand in a name at all. A character that
is only another code for others is left to composed form.
-/
import TelemetryControl.Text.Unassigned
import TelemetryControl.Url.Domain.Folding.Alphabets
import TelemetryControl.Url.Domain.Folding.Several
import TelemetryControl.Url.Domain.Folding.Single

namespace TelemetryControl.Url.Domain

/-- Characters that count for nothing: soft hyphens, joiners of words, fillers and
selectors of a shape. -/
def ignored : List (Nat × Nat) :=
  [(0xAD, 0xAD), (0x34F, 0x34F), (0x115F, 0x1160), (0x17B4, 0x17B5), (0x180B, 0x180F),
   (0x200B, 0x200B), (0x2060, 0x2064), (0x206A, 0x206F), (0x3164, 0x3164), (0xFE00, 0xFE0F),
   (0xFEFF, 0xFEFF), (0xFFA0, 0xFFA0), (0x1BCA0, 0x1BCA3), (0x1D173, 0x1D17A), (0xE0100, 0xE01EF)]

/-- Characters that may not stand in a name: controls, format characters that
change how a text runs, signs that would be folded to a dot, and private use. -/
def disallowed : List (Nat × Nat) :=
  [(0x80, 0x9F), (0x600, 0x605), (0x61C, 0x61C), (0x6DD, 0x6DD), (0x70F, 0x70F), (0x890, 0x891),
   (0x8E2, 0x8E2), (0x1680, 0x1680), (0x200E, 0x200F), (0x2024, 0x2026), (0x2028, 0x202E),
   (0x2066, 0x2069), (0x2488, 0x249B), (0x2FF0, 0x2FFF), (0x31EF, 0x31EF), (0x33C2, 0x33C2),
   (0x33C7, 0x33C7), (0x33D8, 0x33D8), (0xE000, 0xF8FF), (0xFE12, 0xFE12), (0xFE19, 0xFE19),
   (0xFE30, 0xFE30), (0xFE52, 0xFE52), (0xFFF9, 0xFFFD), (0x110BD, 0x110BD), (0x110CD, 0x110CD),
   (0x13430, 0x1343F), (0x1F100, 0x1F100), (0xE0001, 0xE0001), (0xE0020, 0xE007F),
   (0xF0000, 0xFFFFD), (0x100000, 0x10FFFD)]

/-- What a letter of an alphabet that is folded in order is folded to. -/
def ofAlphabet? (n : Nat) : Option Nat :=
  match alphabets.find? (fun r => r.1 ≤ n && n ≤ r.2.1) with
  | some r => some (r.2.2 + (n - r.1))
  | none =>
    (alternatingAlphabets.find? (fun r => r.1 ≤ n && n ≤ r.2.1 && (n - r.1) % 2 == 0)).map
      (fun r => r.2.2 + (n - r.1))

/-- What a character is folded to, if it is not folded to itself. -/
def foldedCodes? (n : Nat) : Option (List Nat) :=
  match ofAlphabet? n with
  | some m => some [m]
  | none =>
    match Text.entry? (if n < 0x2E80 then singleLetters else singleShapes) n with
    | some m => some [m]
    | none =>
      Text.entry? (if n < 0x3000 then severalLetters
        else if n < 0xF000 then severalSquares else severalLigatures) n

/-- The characters that a character counts as, unless it may not stand in a name. -/
def fold? (c : Char) : Option (List Char) :=
  let n := c.toNat
  if n < 0x80 then some [c.toLower]
  else if Text.isUnassigned n || Text.within disallowed n then none
  else if Text.within ignored n then some []
  else
    match foldedCodes? n with
    | some ns => some (ns.map Char.ofNat)
    | none => some [c]

end TelemetryControl.Url.Domain
