/-
TelemetryControl.Toml.Scalar — strings, numbers and dates of TOML.

Each reader takes characters and gives a value with what follows it, or
nothing. Whether what follows may follow is for the caller to say: a line
ends, an array goes on. A date becomes a record with one field that holds
its text, which is what it looks like to a reader who expected a table.
-/
import TelemetryControl.Document

namespace TelemetryControl.Toml

/-! ## 1. Characters -/

/-- Space or tab. -/
def isBlank (c : Char) : Bool := c == ' ' || c == '\t'

/-- Characters beyond ASCII. -/
def isWide (c : Char) : Bool := 0x80 ≤ c.toNat

/-- Characters that may stand in a comment: no control other than the tab. -/
def isCommentChar (c : Char) : Bool :=
  c == '\t' || (0x20 ≤ c.toNat && c.toNat ≤ 0x7E) || isWide c

/-- Characters that stand for themselves between double quotes. -/
def isPlain (c : Char) : Bool := isCommentChar c && c != '"' && c != '\\'

/-- Characters that may stand between single quotes. -/
def isLiteral (c : Char) : Bool := isCommentChar c && c != '\''

/-- Characters of a key without quotes. -/
def isKeyChar (c : Char) : Bool := c.isAlphanum || c == '_' || c == '-'

def skipBlanks (cs : List Char) : List Char := cs.dropWhile isBlank

/-- What follows a line end: a line feed, alone or after a carriage return. -/
def afterNewline : List Char → Option (List Char)
  | '\n' :: rest => some rest
  | '\r' :: '\n' :: rest => some rest
  | _ => none

/-- What follows a comment, if one starts here. -/
def skipComment : List Char → List Char
  | '#' :: rest => rest.dropWhile isCommentChar
  | cs => cs

/-- Drops blanks and line ends. -/
def skipBlankLines : List Char → List Char
  | '\n' :: rest => skipBlankLines rest
  | '\r' :: '\n' :: rest => skipBlankLines rest
  | ' ' :: rest => skipBlankLines rest
  | '\t' :: rest => skipBlankLines rest
  | cs => cs

/-! ## 2. Strings -/

/-- The character of a code point written with so many digits. -/
def codePoint (digits : Nat) (cs : List Char) : Option (Char × List Char) :=
  let ds := cs.take digits
  if ds.length = digits then
    (Text.ofHexDigits? ds).bind (fun n =>
      if n < 0xD800 ∨ (0xDFFF < n ∧ n < 0x110000) then some (Char.ofNat n, cs.drop digits)
      else none)
  else none

/-- The character of an escape, after the backslash. -/
def escaped : List Char → Option (Char × List Char)
  | 'b' :: rest => some ('\x08', rest)
  | 'f' :: rest => some ('\x0c', rest)
  | 'n' :: rest => some ('\n', rest)
  | 'r' :: rest => some ('\r', rest)
  | 't' :: rest => some ('\t', rest)
  | '"' :: rest => some ('"', rest)
  | '\\' :: rest => some ('\\', rest)
  | 'u' :: rest => codePoint 4 rest
  | 'U' :: rest => codePoint 8 rest
  | _ => none

/-- The rest of a text between double quotes. -/
def basicBody : Nat → List Char → Option (List Char × List Char)
  | 0, _ => none
  | fuel + 1, cs =>
    match cs with
    | '"' :: rest => some ([], rest)
    | '\\' :: rest =>
      match escaped rest with
      | some (c, rest) => (basicBody fuel rest).map (fun r => (c :: r.1, r.2))
      | none => none
    | c :: rest =>
      if isPlain c then (basicBody fuel rest).map (fun r => (c :: r.1, r.2)) else none
    | [] => none

/-- The rest of a text between single quotes. -/
def literalBody (cs : List Char) : Option (List Char × List Char) :=
  match cs.dropWhile isLiteral with
  | '\'' :: rest => some (cs.takeWhile isLiteral, rest)
  | _ => none

/-- The quotes in front that belong to a text of many lines, and what follows
its closing quotes; nothing if fewer than three quotes stand here. -/
def closing (quote : Char) (cs : List Char) : Option (List Char × List Char) :=
  let run := (cs.takeWhile (· == quote)).length
  if run < 3 then none
  else
    let own := min (run - 3) 2
    some (List.replicate own quote, cs.drop (own + 3))

/-- The rest of a text between three double quotes. A backslash at the end of a
line joins it to the next character that is not blank. -/
def longBasicBody : Nat → List Char → Option (List Char × List Char)
  | 0, _ => none
  | fuel + 1, cs =>
    match closing '"' cs with
    | some r => some r
    | none =>
      match afterNewline cs with
      | some rest => (longBasicBody fuel rest).map (fun r => ('\n' :: r.1, r.2))
      | none =>
        match cs with
        | '"' :: rest => (longBasicBody fuel rest).map (fun r => ('"' :: r.1, r.2))
        | '\\' :: rest =>
          match afterNewline (skipBlanks rest) with
          | some rest => longBasicBody fuel (skipBlankLines rest)
          | none =>
            match escaped rest with
            | some (c, rest) => (longBasicBody fuel rest).map (fun r => (c :: r.1, r.2))
            | none => none
        | c :: rest =>
          if isPlain c then (longBasicBody fuel rest).map (fun r => (c :: r.1, r.2)) else none
        | [] => none

/-- The rest of a text between three single quotes. -/
def longLiteralBody : Nat → List Char → Option (List Char × List Char)
  | 0, _ => none
  | fuel + 1, cs =>
    match closing '\'' cs with
    | some r => some r
    | none =>
      match afterNewline cs with
      | some rest => (longLiteralBody fuel rest).map (fun r => ('\n' :: r.1, r.2))
      | none =>
        match cs with
        | c :: rest =>
          if isCommentChar c then (longLiteralBody fuel rest).map (fun r => (c :: r.1, r.2))
          else none
        | [] => none

/-- A text in quotes on one line. -/
def lineString : List Char → Option (String × List Char)
  | '"' :: rest => (basicBody (rest.length + 1) rest).map (fun r => (String.ofList r.1, r.2))
  | '\'' :: rest => (literalBody rest).map (fun r => (String.ofList r.1, r.2))
  | _ => none

/-- A text in quotes of any kind. A line end right after three quotes does not
count. -/
def anyString : List Char → Option (String × List Char)
  | '"' :: '"' :: '"' :: rest =>
    let body := (afterNewline rest).getD rest
    (longBasicBody (body.length + 1) body).map (fun r => (String.ofList r.1, r.2))
  | '\'' :: '\'' :: '\'' :: rest =>
    let body := (afterNewline rest).getD rest
    (longLiteralBody (body.length + 1) body).map (fun r => (String.ofList r.1, r.2))
  | cs => lineString cs

/-! ## 3. Numbers -/

/-- Digits of a base, single underscores between them allowed. -/
def digitRun (digit? : Char → Option Nat) : List Char → List Nat × List Char
  | [] => ([], [])
  | c :: rest =>
    match digit? c with
    | some d =>
      match rest with
      | '_' :: e :: more =>
        if (digit? e).isSome then
          let (ds, r) := digitRun digit? (e :: more)
          (d :: ds, r)
        else ([d], '_' :: e :: more)
      | rest =>
        let (ds, r) := digitRun digit? rest
        (d :: ds, r)
    | none => ([], c :: rest)

def decimal? (c : Char) : Option Nat :=
  if c.isDigit then some (c.toNat - 0x30) else none

/-- A digit of a base up to ten. -/
def below? (base : Nat) (c : Char) : Option Nat :=
  (decimal? c).filter (· < base)

/-- A sign, and whether it is a minus. -/
def sign : List Char → Bool × List Char
  | '-' :: rest => (true, rest)
  | '+' :: rest => (false, rest)
  | cs => (false, cs)

/-- An integer that fits in a signed 64-bit word. -/
def word? (negative : Bool) (n : Nat) : Option Document :=
  let i : Int := if negative then -(n : Int) else n
  if -0x8000000000000000 ≤ i ∧ i < 0x8000000000000000 then some (.integer i) else none

/-- An integer in a base other than ten, after its mark. -/
def based (base : Nat) (digit? : Char → Option Nat) (cs : List Char) :
    Option (Document × List Char) :=
  match digitRun digit? cs with
  | ([], _) => none
  | (ds, rest) => (word? false (ds.foldl (fun n d => base * n + d) 0)).map (·, rest)

/-- A decimal number. A double above the range is refused, one below it is
infinite. -/
def decimalNumber (cs : List Char) : Option (Document × List Char) :=
  let (negative, cs) := sign cs
  let (whole, rest) :=
    match cs with
    | '0' :: rest => ([0], rest)
    | cs => digitRun decimal? cs
  if whole.isEmpty then none
  else
    let exponent (rest : List Char) : Option (Option Int × List Char) :=
      match rest with
      | e :: more =>
        if e = 'e' ∨ e = 'E' then
          let (minus, more) := sign more
          match digitRun decimal? more with
          | ([], _) => none
          | (ds, r) =>
            let n : Int := Numeral.ofDigits ds
            some (some (if minus then -n else n), r)
        else some (none, rest)
      | [] => some (none, [])
    let float (fraction : List Nat) (exponent : Option Int) (rest : List Char) :
        Option (Document × List Char) :=
      let x := Numeral.nearest ⟨negative, whole, fraction, exponent⟩
      if x = .infinity then none else some (.real (some x), rest)
    match rest with
    | '.' :: more =>
      match digitRun decimal? more with
      | ([], _) => none
      | (fraction, more) =>
        match exponent more with
        | some (e, r) => float fraction e r
        | none => none
    | rest =>
      match exponent rest with
      | some (some e, r) => float [] (some e) r
      | some (none, r) => (word? negative (Numeral.ofDigits whole)).map (·, r)
      | none => none

/-- Infinity or what is no number, with a sign or without. -/
def special (cs : List Char) : Option (Document × List Char) :=
  let (negative, rest) := sign cs
  match rest with
  | 'i' :: 'n' :: 'f' :: r =>
    some (.real (some (if negative then Binary64.infinity.neg else .infinity)), r)
  | 'n' :: 'a' :: 'n' :: r =>
    some (.real (some (if negative then Binary64.notANumber.neg else .notANumber)), r)
  | _ => none

/-- A number in any notation. -/
def number : List Char → Option (Document × List Char)
  | '0' :: 'x' :: rest => based 16 Text.hexDigit? rest
  | '0' :: 'o' :: rest => based 8 (below? 8) rest
  | '0' :: 'b' :: rest => based 2 (below? 2) rest
  | cs => (special cs).or (decimalNumber cs)

/-! ## 4. Dates and times -/

/-- Exactly so many decimal digits, as a number within bounds. -/
def field (digits low high : Nat) (cs : List Char) : Option (Nat × List Char) :=
  let ds := (cs.take digits).filterMap decimal?
  let n := Numeral.ofDigits ds
  if ds.length = digits ∧ low ≤ n ∧ n ≤ high then some (n, cs.drop digits) else none

/-- How many days a month has. -/
def daysIn (year month : Nat) : Nat :=
  if month = 2 then
    if year % 4 = 0 ∧ (year % 100 ≠ 0 ∨ year % 400 = 0) then 29 else 28
  else if month = 4 ∨ month = 6 ∨ month = 9 ∨ month = 11 then 30
  else 31

/-- A number in exactly so many digits. -/
def padded (digits n : Nat) : String :=
  let ds := Nat.toDigits 10 n
  String.ofList (List.replicate (digits - ds.length) '0' ++ ds)

def expect (c : Char) : List Char → Option (List Char)
  | d :: rest => if d = c then some rest else none
  | [] => none

def date (cs : List Char) : Option (String × List Char) := do
  let (year, cs) ← field 4 0 9999 cs
  let cs ← expect '-' cs
  let (month, cs) ← field 2 1 12 cs
  let cs ← expect '-' cs
  let (day, cs) ← field 2 1 31 cs
  if daysIn year month < day then none
  else some (padded 4 year ++ "-" ++ padded 2 month ++ "-" ++ padded 2 day, cs)

/-- The digits of a fraction of a second: nine at most, trailing zeros dropped. -/
def secondFraction : List Char → Option (String × List Char)
  | '.' :: rest =>
    let ds := rest.takeWhile Char.isDigit
    if ds.isEmpty then none
    else
      let kept := ((ds.take 9).reverse.dropWhile (· == '0')).reverse
      some (if kept.isEmpty then "" else "." ++ String.ofList kept, rest.drop ds.length)
  | cs => some ("", cs)

def time (cs : List Char) : Option (String × List Char) := do
  let (hour, cs) ← field 2 0 23 cs
  let cs ← expect ':' cs
  let (minute, cs) ← field 2 0 59 cs
  let cs ← expect ':' cs
  let (second, cs) ← field 2 0 60 cs
  let (fraction, cs) ← secondFraction cs
  some (padded 2 hour ++ ":" ++ padded 2 minute ++ ":" ++ padded 2 second ++ fraction, cs)

/-- The distance from universal time, where one is written. No distance has no
direction: it counts as one ahead. -/
def offset (cs : List Char) : Option (String × List Char) :=
  match cs with
  | c :: rest =>
    if c = 'Z' ∨ c = 'z' then some ("Z", rest)
    else if c = '+' ∨ c = '-' then do
      let (hour, rest) ← field 2 0 23 rest
      let rest ← expect ':' rest
      let (minute, rest) ← field 2 0 59 rest
      let sign := if c = '-' ∧ 0 < hour + minute then "-" else "+"
      some (sign ++ padded 2 hour ++ ":" ++ padded 2 minute, rest)
    else some ("", cs)
  | [] => some ("", [])

/-- The document of a date or time. -/
def moment (text : String) : Document :=
  .record [(some "$__toml_private_datetime", .text (some text))]

/-- A date, a time, or both. -/
def dateTime (cs : List Char) : Option (Document × List Char) :=
  match date cs with
  | some (d, rest) =>
    match rest with
    | c :: more =>
      if c = 'T' ∨ c = 't' ∨ c = ' ' then
        match time more with
        | some (t, more) => (offset more).map (fun o => (moment (d ++ "T" ++ t ++ o.1), o.2))
        | none => if c = ' ' then some (moment d, rest) else none
      else some (moment d, rest)
    | [] => some (moment d, [])
  | none => (time cs).map (fun r => (moment r.1, r.2))

end TelemetryControl.Toml
