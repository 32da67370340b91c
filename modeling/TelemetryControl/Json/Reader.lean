/-
TelemetryControl.Json.Reader — reading JSON from octets.

The grammar is judged octet by octet and strictly: no leading zeros, no
raw control characters inside quotes, nothing but space after the value.
Whether a quoted run of octets is a text is a second question, answered by
`Piece.text?`: the octets must be UTF-8 and the halves of surrogate pairs must
come in pairs. A value whose grammar is right is read even where a text in
it is not, and nesting may be of any depth.
-/
import TelemetryControl.Json
import TelemetryControl.Text.Ascii

namespace TelemetryControl.Json

open TelemetryControl.Text (octet digit? ofOctets? octets)

/-! ## 1. Quoted texts -/

/-- What stands between quotes: octets, and the code units of escapes. -/
inductive Piece where
  | raw (b : UInt8)
  | unit (n : Nat)
deriving DecidableEq, Repr

namespace Piece

/-- The octets of a code point in UTF-8. -/
def encode (n : Nat) : List UInt8 :=
  octets (String.singleton (Char.ofNat n))

/-- The octets of pieces; none if half a surrogate pair stands alone. -/
def octets? : List Piece → Option (List UInt8)
  | [] => some []
  | raw b :: rest => (octets? rest).map (b :: ·)
  | unit n :: rest =>
    if 0xDC00 ≤ n ∧ n ≤ 0xDFFF then none
    else if 0xD800 ≤ n ∧ n ≤ 0xDBFF then
      match rest with
      | unit m :: rest' =>
        if 0xDC00 ≤ m ∧ m ≤ 0xDFFF then
          (octets? rest').map
            (encode (0x10000 + 0x400 * (n - 0xD800) + (m - 0xDC00)) ++ ·)
        else none
      | _ => none
    else (octets? rest).map (encode n ++ ·)

/-- The text of pieces, if they are one. -/
def text? (ps : List Piece) : Option String :=
  (octets? ps).bind ofOctets?

end Piece

/-- The value of an octet that is a hexadecimal digit. -/
def hexOctet? (b : UInt8) : Option Nat :=
  Text.hexDigit? (Char.ofNat b.toNat)

/-- The octet that a one-letter escape stands for. -/
def letterEscape? (b : UInt8) : Option UInt8 :=
  if b = octet '"' then some 0x22
  else if b = octet '\\' then some 0x5C
  else if b = octet '/' then some 0x2F
  else if b = octet 'b' then some 0x08
  else if b = octet 'f' then some 0x0C
  else if b = octet 'n' then some 0x0A
  else if b = octet 'r' then some 0x0D
  else if b = octet 't' then some 0x09
  else none

/-- The pieces up to the closing quote, and what follows it. -/
def quoted : List UInt8 → Option (List Piece × List UInt8)
  | [] => none
  | b :: rest =>
    if b = octet '"' then some ([], rest)
    else if b = octet '\\' then
      match rest with
      | [] => none
      | e :: rest =>
        if e = octet 'u' then
          match rest with
          | h₁ :: h₂ :: h₃ :: h₄ :: rest =>
            match hexOctet? h₁, hexOctet? h₂, hexOctet? h₃, hexOctet? h₄ with
            | some d₁, some d₂, some d₃, some d₄ =>
              (quoted rest).map
                (fun r => (.unit (4096 * d₁ + 256 * d₂ + 16 * d₃ + d₄) :: r.1, r.2))
            | _, _, _, _ => none
          | _ => none
        else
          match letterEscape? e with
          | some c => (quoted rest).map (fun r => (.raw c :: r.1, r.2))
          | none => none
    else if b < 0x20 then none
    else (quoted rest).map (fun r => (.raw b :: r.1, r.2))

/-! ## 2. Numbers -/

/-- The leading digits and what follows them. -/
def digits : List UInt8 → List Nat × List UInt8
  | [] => ([], [])
  | b :: rest =>
    match digit? b with
    | some d => let (ds, r) := digits rest; (d :: ds, r)
    | none => ([], b :: rest)

/-- The digits before the point: a zero alone, or any that start with another
digit. -/
def wholePart (bs : List UInt8) : Option (List Nat × List UInt8) :=
  match digits bs with
  | ([], _) => none
  | (0 :: _ :: _, _) => none
  | (ds, rest) => some (ds, rest)

/-- The digits after the point, where there is one. -/
def fractionPart : List UInt8 → Option (List Nat × List UInt8)
  | [] => some ([], [])
  | b :: rest =>
    if b = octet '.' then
      match digits rest with
      | ([], _) => none
      | (ds, rest) => some (ds, rest)
    else some ([], b :: rest)

/-- The exponent, where there is one. -/
def exponentPart : List UInt8 → Option (Option Int × List UInt8)
  | [] => some (none, [])
  | b :: rest =>
    if b = octet 'e' ∨ b = octet 'E' then
      let (negative, rest) :=
        match rest with
        | s :: r =>
          if s = octet '-' then (true, r)
          else if s = octet '+' then (false, r)
          else (false, rest)
        | [] => (false, [])
      match digits rest with
      | ([], _) => none
      | (ds, rest) =>
        let n : Int := Numeral.ofDigits ds
        some (some (if negative then -n else n), rest)
    else some (none, b :: rest)

/-- A number and what follows it. -/
def numeral (bs : List UInt8) : Option (Numeral × List UInt8) := do
  let (negative, bs) :=
    match bs with
    | b :: rest => if b = octet '-' then (true, rest) else (false, bs)
    | [] => (false, [])
  let (whole, bs) ← wholePart bs
  let (fraction, bs) ← fractionPart bs
  let (exponent, bs) ← exponentPart bs
  return (⟨negative, whole, fraction, exponent⟩, bs)

/-! ## 3. Values -/

/-- Space between tokens. -/
def isSpace (b : UInt8) : Bool :=
  b == 0x20 || b == 0x09 || b == 0x0A || b == 0x0D

/-- What follows the space in front. -/
def skipSpace (bs : List UInt8) : List UInt8 :=
  bs.dropWhile isSpace

/-- What follows a word, if the octets start with it. -/
def afterWord (word : String) (bs : List UInt8) : Option (List UInt8) :=
  let w := octets word
  if w.isPrefixOf bs then some (bs.drop w.length) else none

mutual

/-- A value and what follows it. -/
def value : Nat → List UInt8 → Option (Json × List UInt8)
  | 0, _ => none
  | fuel + 1, bs =>
    match skipSpace bs with
    | [] => none
    | b :: rest =>
      if b = octet '"' then (quoted rest).map (fun r => (.string (Piece.text? r.1), r.2))
      else if b = octet '\x7b' then
        match skipSpace rest with
        | [] => none
        | c :: rest' =>
          if c = octet '\x7d' then some (.object [], rest')
          else (members fuel (c :: rest')).map (fun r => (.object r.1, r.2))
      else if b = octet '[' then
        match skipSpace rest with
        | [] => none
        | c :: rest' =>
          if c = octet ']' then some (.array [], rest')
          else (items fuel (c :: rest')).map (fun r => (.array r.1, r.2))
      else if b = octet 't' then (afterWord "rue" rest).map (fun r => (.bool true, r))
      else if b = octet 'f' then (afterWord "alse" rest).map (fun r => (.bool false, r))
      else if b = octet 'n' then (afterWord "ull" rest).map (fun r => (.null, r))
      else (numeral (b :: rest)).map (fun r => (.number r.1, r.2))

/-- One or more items and the closing bracket. -/
def items : Nat → List UInt8 → Option (List Json × List UInt8)
  | 0, _ => none
  | fuel + 1, bs =>
    match value fuel bs with
    | none => none
    | some (v, rest) =>
      match skipSpace rest with
      | [] => none
      | c :: rest' =>
        if c = octet ',' then (items fuel rest').map (fun r => (v :: r.1, r.2))
        else if c = octet ']' then some ([v], rest')
        else none

/-- One or more members and the closing brace. -/
def members : Nat → List UInt8 → Option (List (Option String × Json) × List UInt8)
  | 0, _ => none
  | fuel + 1, bs =>
    match skipSpace bs with
    | [] => none
    | q :: afterQuote =>
      if q = octet '"' then
        match quoted afterQuote with
        | none => none
        | some (key, afterKey) =>
          match skipSpace afterKey with
          | [] => none
          | colon :: afterColon =>
            if colon = octet ':' then
              match value fuel afterColon with
              | none => none
              | some (v, rest) =>
                match skipSpace rest with
                | [] => none
                | c :: rest' =>
                  if c = octet ',' then
                    (members fuel rest').map (fun r => ((Piece.text? key, v) :: r.1, r.2))
                  else if c = octet '\x7d' then some ([(Piece.text? key, v)], rest')
                  else none
            else none
      else none

end

/-- The value that octets spell, with nothing but space around it. A step into
a value uses up an octet, so twice their number bounds the depth. -/
def parse? (bs : List UInt8) : Option Json :=
  match value (2 * bs.length + 2) bs with
  | some (v, rest) => if (skipSpace rest).isEmpty then some v else none
  | none => none

end TelemetryControl.Json
