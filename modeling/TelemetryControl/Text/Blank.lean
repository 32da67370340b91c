/-
TelemetryControl.Text.Blank — the characters that may pad a name or a level.

Operators pad names and levels by hand, so both are trimmed before they are
compared. What counts as padding is the Unicode property White_Space, not
the six ASCII characters: a name copied out of a web page often carries a
no-break space.
-/

namespace TelemetryControl.Text

/-- Characters with the Unicode property White_Space. -/
def isBlank (c : Char) : Bool :=
  let n := c.toNat
  (0x09 ≤ n && n ≤ 0x0D) || n == 0x20 || n == 0x85 || n == 0xA0 || n == 0x1680 ||
    (0x2000 ≤ n && n ≤ 0x200A) || n == 0x2028 || n == 0x2029 || n == 0x202F ||
    n == 0x205F || n == 0x3000

/-- A list of characters without the blanks at its two ends. -/
def trimChars (cs : List Char) : List Char :=
  ((cs.dropWhile isBlank).reverse.dropWhile isBlank).reverse

/-- A text without the blanks at its two ends. -/
def trim (s : String) : String :=
  String.ofList (trimChars s.toList)

/-- A text of blanks only has nothing left after trimming. -/
def isBlankText (s : String) : Bool :=
  s.toList.all isBlank

end TelemetryControl.Text
