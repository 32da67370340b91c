/-
TelemetryControl.Url.Punycode — host labels beyond ASCII, in ASCII.

A label is written as its ASCII characters, a hyphen, and a run of letters
and digits that say where each other character goes, in ascending order of
the characters. Each step is a number in a mixed base whose weights adapt to
the sizes seen so far, so that labels in one script stay short.
-/
import TelemetryControl.Text.Hex

namespace TelemetryControl.Url.Punycode

/-! ## 1. The mixed base -/

def base : Nat := 36
def least : Nat := 1
def most : Nat := 26
def firstBias : Nat := 72
def firstCode : Nat := 128

/-- The weight limit of the digit at a position. -/
def threshold (position bias : Nat) : Nat :=
  min most (max least (base * (position + 1) - bias))

/-- Divides a step down until it is small, counting the divisions. -/
def settle : Nat → Nat → Nat → Nat × Nat
  | 0, delta, k => (delta, k)
  | fuel + 1, delta, k =>
    if (base - least) * most / 2 < delta then settle fuel (delta / (base - least)) (k + base)
    else (delta, k)

/-- The bias after a step. -/
def adapt (delta points : Nat) (first : Bool) : Nat :=
  let scaled := if first then delta / 700 else delta / 2
  let (small, k) := settle 64 (scaled + scaled / points) 0
  k + (base - least + 1) * small / (small + 38)

/-- The character of a digit below 36. -/
def digitChar (d : Nat) : Char :=
  if d < 26 then Char.ofNat (0x61 + d) else Char.ofNat (0x30 + (d - 26))

/-- The digit of a character. -/
def digit? (c : Char) : Option Nat :=
  let n := c.toNat
  if 0x61 ≤ n && n ≤ 0x7A then some (n - 0x61)
  else if 0x41 ≤ n && n ≤ 0x5A then some (n - 0x41)
  else if 0x30 ≤ n && n ≤ 0x39 then some (n - 0x30 + 26)
  else none

/-! ## 2. Writing -/

/-- A step as digits of the mixed base, the lowest first. -/
def digits (bias : Nat) : Nat → Nat → Nat → List Char
  | 0, _, _ => []
  | fuel + 1, position, q =>
    let t := threshold position bias
    if q < t then [digitChar q]
    else digitChar (t + (q - t) % (base - t)) ::
      digits bias fuel (position + 1) ((q - t) / (base - t))

/-- Where a writer or a reader stands. -/
structure State where
  code : Nat
  delta : Nat
  bias : Nat
  handled : Nat

/-- Writes all occurrences of one code, in the order of the label. -/
def writeCode (basic code : Nat) (s : State) : List Nat → State × List Char
  | [] => (s, [])
  | c :: rest =>
    if c < code then writeCode basic code { s with delta := s.delta + 1 } rest
    else if c = code then
      let out := digits s.bias 64 0 s.delta
      let s' : State :=
        { s with
          bias := adapt s.delta (s.handled + 1) (s.handled == basic)
          delta := 0
          handled := s.handled + 1 }
      let (s'', more) := writeCode basic code s' rest
      (s'', out ++ more)
    else writeCode basic code s rest

/-- Writes the codes of a label in ascending order. -/
def writeCodes (label : List Nat) (basic : Nat) (s : State) : List Nat → List Char
  | [] => []
  | code :: more =>
    let ready := { s with delta := s.delta + (code - s.code) * (s.handled + 1) }
    let (s', out) := writeCode basic code ready label
    out ++ writeCodes label basic { s' with delta := s'.delta + 1, code := code + 1 } more

/-- A label without its leading mark. -/
def encode (label : List Char) : List Char :=
  let basic := label.filter (fun c => c.toNat < firstCode)
  let codes := label.map Char.toNat
  let others := ((codes.filter (fun n => firstCode ≤ n)).mergeSort (· ≤ ·)).eraseDups
  (if basic.isEmpty then [] else basic ++ ['-']) ++
    writeCodes codes basic.length ⟨firstCode, 0, firstBias, basic.length⟩ others

/-! ## 3. Reading -/

/-- Reads one step: its value and what is left. -/
def readStep (bias : Nat) : Nat → Nat → List Char → Option (Nat × List Char)
  | _, _, [] => none
  | position, weight, c :: rest =>
    match digit? c with
    | none => none
    | some d =>
      let t := threshold position bias
      if d < t then some (d * weight, rest)
      else
        (readStep bias (position + 1) (weight * (base - t)) rest).map
          (fun p => (d * weight + p.1, p.2))

/-- Puts the characters in that the steps stand for. -/
def readSteps : Nat → State → List Nat → List Char → Option (List Nat)
  | 0, _, out, rest => if rest.isEmpty then some out else none
  | fuel + 1, s, out, rest =>
    if rest.isEmpty then some out
    else
      match readStep s.bias 0 1 rest with
      | none => none
      | some (step, rest) =>
        let points := out.length + 1
        let place := s.delta + step
        let code := s.code + place / points
        if code.isValidChar then
          readSteps fuel
            ⟨code, place % points + 1, adapt step points (s.handled == 0), s.handled + 1⟩
            (out.take (place % points) ++ code :: out.drop (place % points)) rest
        else none

/-- The label that a text stands for. A hyphen that nothing stands before is no
delimiter, and no digit either. -/
def decode? (cs : List Char) : Option (List Char) :=
  let tail := (cs.reverse.takeWhile (· != '-')).reverse
  let front := (cs.take (cs.length - tail.length)).dropLast
  if cs.length = tail.length + 1 then none
  else if (front ++ tail).all (fun c => c.toNat < firstCode) then
    (readSteps cs.length ⟨firstCode, 0, firstBias, 0⟩ (front.map Char.toNat) tail).map
      (·.map Char.ofNat)
  else none

end TelemetryControl.Url.Punycode
