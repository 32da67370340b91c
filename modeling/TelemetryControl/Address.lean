/-
TelemetryControl.Address — numeric network addresses.

An address of version 6 is eight pieces of sixteen bits between colons,
where a double colon stands for the zero pieces that are missing and the
last two pieces may be written as four octets. Written out, it leaves out
its longest run of two or more zero pieces, the first of equals. An address
of version 4 is four octets between dots. Where old spellings are understood
it may also be one to four numbers, of which all but the last are octets and
the last fills the bits that are left.
-/
import TelemetryControl.Text.Hex
import TelemetryControl.Text.Pieces

namespace TelemetryControl.Address

/-- The number that digits of a base spell. -/
def numeral? (base : Nat) (cs : List Char) : Option Nat :=
  cs.foldlM (fun n c =>
    (Text.hexDigit? c).bind (fun d => if d < base then some (base * n + d) else none)) 0

/-! ## 1. Version 4 -/

/-- An octet in decimal without leading zeros. -/
def octet? (cs : List Char) : Option Nat :=
  match cs with
  | [] => none
  | '0' :: _ :: _ => none
  | cs => (numeral? 10 cs).bind (fun n => if n < 256 then some n else none)

/-- Four octets between dots. -/
def octets? (cs : List Char) : Option (List Nat) :=
  ((Text.pieces '.' cs).mapM octet?).bind (fun os => if os.length = 4 then some os else none)

/-- A number in decimal, in octal after a zero, or in hexadecimal after `0x`. -/
def number? : List Char → Option Nat
  | [] => none
  | ['0'] => some 0
  | '0' :: c :: rest =>
    if c = 'x' ∨ c = 'X' then if rest.isEmpty then none else numeral? 16 rest
    else numeral? 8 (c :: rest)
  | cs => numeral? 10 cs

/-- The address of a list of numbers, as one number of 32 bits. -/
def ofNumbers? (ns : List Nat) : Option Nat :=
  match ns.getLast? with
  | none => none
  | some last =>
    let front := ns.dropLast
    if front.length ≤ 3 ∧ (∀ n ∈ front, n < 256) ∧ last < Nat.pow 256 (4 - front.length) then
      some (front.foldl (fun v n => 256 * v + n) 0 * Nat.pow 256 (4 - front.length) + last)
    else none

/-- The octets of a number of 32 bits. -/
def octetsOf (n : Nat) : List Nat :=
  [24, 16, 8, 0].map (fun k => n / Nat.pow 2 k % 256)

/-- Octets with dots between them. -/
def octetsChars (os : List Nat) : List Char :=
  Text.join '.' (os.map (Nat.toDigits 10))

/-! ## 2. Version 6 -/

/-- A piece of up to four hexadecimal digits. -/
def piece? (cs : List Char) : Option Nat :=
  if cs.isEmpty || 4 < cs.length then none else numeral? 16 cs

/-- The two pieces that four octets stand for. -/
def pieceOctets? (cs : List Char) : Option (List Nat) :=
  match octets? cs with
  | some [a, b, c, d] => some [256 * a + b, 256 * c + d]
  | _ => none

/-- The pieces on one side of a double colon. Only the last may be four octets,
and only where the address ends. -/
def side? (atEnd : Bool) (cs : List Char) : Option (List Nat) :=
  if cs.isEmpty then some []
  else
    let ps := Text.pieces ':' cs
    let last := (ps.getLast?).getD []
    if atEnd && last.contains '.' then
      (ps.dropLast.mapM piece?).bind (fun front => (pieceOctets? last).map (front ++ ·))
    else ps.mapM piece?

/-- A text cut at its first double colon. -/
def cutAtGap : List Char → Option (List Char × List Char)
  | [] => none
  | [_] => none
  | c :: d :: rest =>
    if c = ':' ∧ d = ':' then some ([], rest)
    else (cutAtGap (d :: rest)).map (fun p => (c :: p.1, p.2))

/-- The eight pieces of an address of version 6. -/
def version6? (cs : List Char) : Option (List Nat) :=
  match cutAtGap cs with
  | none => (side? true cs).bind (fun ps => if ps.length = 8 then some ps else none)
  | some (left, right) =>
    match side? false left, side? true right with
    | some l, some r =>
      if l.length + r.length ≤ 7 then
        some (l ++ List.replicate (8 - l.length - r.length) 0 ++ r)
      else none
    | _, _ => none

/-- How many zero pieces stand from a place on. -/
def zerosFrom (ps : List Nat) (i : Nat) : Nat :=
  ((ps.drop i).takeWhile (· == 0)).length

/-- Where the longest run of zero pieces starts, and its length. -/
def longestZeros (ps : List Nat) : Nat × Nat :=
  (List.range ps.length).foldl (fun best i =>
    if best.2 < zerosFrom ps i then (i, zerosFrom ps i) else best) (0, 0)

/-- An address of version 6, its longest run of zero pieces left out. -/
def version6Chars (ps : List Nat) : List Char :=
  let write (l : List Nat) : List Char := Text.join ':' (l.map (Nat.toDigits 16))
  let (start, length) := longestZeros ps
  if length < 2 then write ps
  else write (ps.take start) ++ [':', ':'] ++ write (ps.drop (start + length))

end TelemetryControl.Address
