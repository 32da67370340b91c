/-
TelemetryControl.Url.Domain.Label — the labels of a host name.

A label is what stands between two dots. It is shown in its own characters
and written in ASCII, in the mixed-base form behind a mark where it holds
others. A label may come in that form already, and then has to stand for one
that would be written so.
-/
import TelemetryControl.Text.Ascii
import TelemetryControl.Text.Composed
import TelemetryControl.Url.Domain.Folding
import TelemetryControl.Url.Domain.Joining
import TelemetryControl.Url.Punycode

namespace TelemetryControl.Url.Domain

/-- A label in both of its forms. -/
structure Label where
  shown : List Char
  written : List Char
deriving DecidableEq, Repr

namespace Label

/-- What marks a label in the mixed-base form. -/
def mark : List Char := ['x', 'n', '-', '-']

/-- How long the part after the mark may be. -/
def longestMarked : Nat := 2000

/-- How many characters a label beyond ASCII may have. -/
def longestShown : Nat := 1000

/-- ASCII characters that no host name holds. -/
def isForbidden (c : Char) : Bool :=
  c.toNat ≤ 0x20 || c.toNat == 0x7F || "%#/:<>?@[\\]^|".toList.contains c

def isAscii (cs : List Char) : Bool :=
  cs.all (fun c => c.toNat < 0x80)

/-- Whether a folded label may stand in a name: it holds no forbidden character,
starts with no mark, has joiners only where they count, and is not too long. -/
def isUsable (cs : List Char) : Bool :=
  !(cs.any isForbidden) && !(cs.head?.any (fun c => Text.isMark c.toNat)) && Joining.allowed cs &&
    (isAscii cs || cs.length ≤ longestShown)

/-- Whether a label is as folding and composing would leave it. -/
def isSettled (cs : List Char) : Bool :=
  cs.all (fun c => fold? c == some [c]) && Text.composed cs == cs

/-- The label of folded and composed characters, if they make one. -/
def of? (cs : List Char) : Option Label :=
  if mark.isPrefixOf cs then
    let code := cs.drop mark.length
    if longestMarked < code.length then none
    else
      (Punycode.decode? code).bind (fun label =>
        if !isAscii label && isSettled label && isUsable label then some ⟨label, cs⟩ else none)
  else if !isUsable cs then none
  else some ⟨cs, if isAscii cs then cs else mark ++ Punycode.encode cs⟩

end Label

end TelemetryControl.Url.Domain
