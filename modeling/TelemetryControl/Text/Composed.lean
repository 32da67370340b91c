/-
TelemetryControl.Text.Composed — one spelling for each character.

A letter with marks can be spelled as one character or as a letter and marks
after it, in several orders. Composed form takes a text apart as far as it
goes, puts the marks on each character into the order of their ranks, and
then puts together what one character can stand for. Two texts that look
alike because of such spellings have one composed form.
-/
import TelemetryControl.Text.Composed.Pairs
import TelemetryControl.Text.Composed.Rank
import TelemetryControl.Text.Composed.Substitutes

namespace TelemetryControl.Text

/-! ## 1. Syllables

The syllables of one script lie in order: each is a leading consonant, a
vowel, and perhaps a trailing consonant. -/

def firstSyllable : Nat := 0xAC00
def firstLeading : Nat := 0x1100
def firstVowel : Nat := 0x1161
/-- One before the first trailing consonant, so that zero means none. -/
def beforeTrailing : Nat := 0x11A7
def leadingCount : Nat := 19
def vowelCount : Nat := 21
def trailingCount : Nat := 28

/-- The letters of a syllable. -/
def syllableLetters? (n : Nat) : Option (List Nat) :=
  if firstSyllable ≤ n ∧ n < firstSyllable + leadingCount * vowelCount * trailingCount then
    let s := n - firstSyllable
    let letters :=
      [firstLeading + s / (vowelCount * trailingCount),
        firstVowel + s / trailingCount % vowelCount]
    some (if s % trailingCount = 0 then letters
      else letters ++ [beforeTrailing + s % trailingCount])
  else none

/-- The syllable that a leading consonant and a vowel make, or such a syllable
and a trailing consonant. -/
def syllable? (a b : Nat) : Option Nat :=
  if firstLeading ≤ a ∧ a < firstLeading + leadingCount ∧
      firstVowel ≤ b ∧ b < firstVowel + vowelCount then
    some (firstSyllable +
      ((a - firstLeading) * vowelCount + (b - firstVowel)) * trailingCount)
  else if firstSyllable ≤ a ∧ a < firstSyllable + leadingCount * vowelCount * trailingCount ∧
      (a - firstSyllable) % trailingCount = 0 ∧
      beforeTrailing < b ∧ b < beforeTrailing + trailingCount then
    some (a + (b - beforeTrailing))
  else none

/-! ## 2. Taking apart -/

/-- The two characters that make another. -/
def pair? (n : Nat) : Option (Nat × Nat) :=
  if n < 0xC0 then none
  else entry? (if n < 0x1E00 then pairsInFirstScripts else pairsBeyond) n

/-- The characters that a character stands for. -/
def substitute? (n : Nat) : Option (List Nat) :=
  if n < 0x300 then none
  else
    match entry? (if n < 0xF900 then substitutes else ideographSubstitutes) n with
    | some m => some [m]
    | none => entry? longSubstitutes n

/-- How often a character can be made of one that is made of two others. -/
def pairDepth : Nat := 3

/-- A character taken apart, pairs at most so often. -/
def parts : Nat → Nat → List Nat
  | 0, n => [n]
  | depth + 1, n =>
    match pair? n with
    | some (a, b) => parts depth a ++ [b]
    | none => [n]

/-- A character taken apart as far as it goes. -/
def decomposed (n : Nat) : List Nat :=
  match syllableLetters? n with
  | some letters => letters
  | none =>
    match substitute? n with
    | some others => others
    | none => parts pairDepth n

/-! ## 3. The order of marks -/

/-- Puts a ranked character before others, past marks of lower ranks. -/
def sink (c : Nat × Nat) : List (Nat × Nat) → List (Nat × Nat)
  | [] => [c]
  | d :: rest => if 0 < d.2 ∧ d.2 < c.2 then d :: sink c rest else c :: d :: rest

/-- Characters with their ranks, the marks on each in the order of their ranks. -/
def inOrder (ns : List Nat) : List (Nat × Nat) :=
  ns.foldr (fun n rest => sink (n, rank n) rest) []

/-! ## 4. Putting together -/

/-- The first code of a run whose characters include one that two others make. -/
def madeIn? (a b : Nat) (runs : List (Nat × List (Nat × Nat))) : Option Nat :=
  runs.findSome? (fun r => (r.2.findIdx? (· == (a, b))).map (r.1 + ·))

/-- The character that two others make, if there is one. -/
def made? (a b : Nat) : Option Nat :=
  match syllable? a b with
  | some s => some s
  | none =>
    if b < 0x300 then none
    else
      match madeIn? a b pairsInFirstScripts with
      | some n => some n
      | none => madeIn? a b pairsBeyond

/-- Characters put together from one that starts anew, given the marks that were
left between it and the rest, the last first. A mark joins its character unless
one of the same rank or a higher one stands between them. -/
def puttingTogether (starter : Nat) (between : List (Nat × Nat)) :
    List (Nat × Nat) → List Nat
  | [] => starter :: (between.reverse.map (·.1))
  | c :: rest =>
    let reaches := between.head?.all (fun m => m.2 < c.2)
    match if reaches then made? starter c.1 else none with
    | some n => puttingTogether n between rest
    | none =>
      if c.2 = 0 then
        starter :: (between.reverse.map (·.1)) ++ puttingTogether c.1 [] rest
      else puttingTogether starter (c :: between) rest

/-- Characters put together. Marks before all others stay as they are. -/
def putTogether (cs : List (Nat × Nat)) : List Nat :=
  let stray := cs.takeWhile (fun c => 0 < c.2)
  stray.map (·.1) ++
    (match cs.drop stray.length with
      | [] => []
      | c :: rest => puttingTogether c.1 [] rest)

/-- Codes in composed form. -/
def composedCodes (ns : List Nat) : List Nat :=
  putTogether (inOrder (ns.flatMap decomposed))

/-- Characters in composed form; ASCII is in composed form as it is. -/
def composed (cs : List Char) : List Char :=
  if cs.all (fun c => c.toNat < 0x80) then cs
  else (composedCodes (cs.map Char.toNat)).map Char.ofNat

end TelemetryControl.Text
