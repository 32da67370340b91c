/-
TelemetryControl.Toml.Reader — reading TOML texts.

A text is a sequence of lines: a key with its value, a header, or nothing,
each perhaps with a comment. Values of arrays and inline tables may hold
values in turn, to a depth below eighty; a dotted key may have as many
parts.
-/
import TelemetryControl.Toml.Scalar
import TelemetryControl.Toml.Tables

namespace TelemetryControl.Toml

/-- The first depth that is too deep. -/
def depthLimit : Nat := 80

/-! ## 1. Keys -/

/-- One part of a key, quoted or not. -/
def simpleKey (cs : List Char) : Option (String × List Char) :=
  match cs with
  | '"' :: _ => lineString cs
  | '\'' :: _ => lineString cs
  | _ =>
    match cs.takeWhile isKeyChar with
    | [] => none
    | k => some (String.ofList k, cs.drop k.length)

/-- The parts of a key with dots between them, blanks around each allowed. -/
def keyParts : Nat → List Char → Option (List String × List Char)
  | 0, _ => none
  | fuel + 1, cs =>
    match simpleKey (skipBlanks cs) with
    | none => none
    | some (k, rest) =>
      match skipBlanks rest with
      | '.' :: more => (keyParts fuel more).map (fun r => (k :: r.1, r.2))
      | rest => some ([k], rest)

/-- A key: the parts on the way, the last part, and what follows. -/
def key (cs : List Char) : Option (List String × String × List Char) := do
  let (parts, rest) ← keyParts (cs.length + 1) cs
  let last ← parts.getLast?
  if depthLimit ≤ parts.length then none else some (parts.dropLast, last, rest)

/-! ## 2. Values -/

/-- Drops blanks, line ends and comments, as between the items of an array. -/
def skipFiller : Nat → List Char → List Char
  | 0, cs => cs
  | fuel + 1, cs =>
    match skipBlankLines cs with
    | '#' :: rest =>
      match afterNewline (rest.dropWhile isCommentChar) with
      | some more => skipFiller fuel more
      | none => '#' :: rest
    | rest => rest

def filler (cs : List Char) : List Char := skipFiller (cs.length + 1) cs

mutual

/-- A value and what follows it. -/
def value : Nat → Nat → List Char → Option (Document × List Char)
  | 0, _, _ => none
  | fuel + 1, depth, cs =>
    match cs with
    | '[' :: rest =>
      if depthLimit ≤ depth + 1 then none
      else (arrayItems fuel (depth + 1) rest).map (fun r => (.list r.1, r.2))
    | '\x7b' :: rest =>
      if depthLimit ≤ depth + 1 then none
      else
        match skipBlanks rest with
        | '\x7d' :: more => some (.record [], more)
        | rest =>
          (inlineEntries fuel (depth + 1) .opened rest).map
            (fun r => (.record (Node.members r.1.entries), r.2))
    | '"' :: _ => (anyString cs).map (fun r => (.text (some r.1), r.2))
    | '\'' :: _ => (anyString cs).map (fun r => (.text (some r.1), r.2))
    | 't' :: 'r' :: 'u' :: 'e' :: rest => some (.boolean true, rest)
    | 'f' :: 'a' :: 'l' :: 's' :: 'e' :: rest => some (.boolean false, rest)
    | cs => (dateTime cs).or (number cs)

/-- The items of an array and its closing bracket; a comma may follow the last. -/
def arrayItems : Nat → Nat → List Char → Option (List Document × List Char)
  | 0, _, _ => none
  | fuel + 1, depth, cs =>
    match filler cs with
    | ']' :: rest => some ([], rest)
    | cs =>
      match value fuel depth cs with
      | none => none
      | some (v, rest) =>
        match filler rest with
        | ',' :: more => (arrayItems fuel depth more).map (fun r => (v :: r.1, r.2))
        | ']' :: more => some ([v], more)
        | _ => none

/-- The entries of an inline table and its closing brace; all on one line, with
no comma after the last. -/
def inlineEntries : Nat → Nat → OpenTable → List Char → Option (OpenTable × List Char)
  | 0, _, _, _ => none
  | fuel + 1, depth, t, cs =>
    match key cs with
    | some (path, last, '=' :: rest) =>
      match value fuel depth (skipBlanks rest) with
      | none => none
      | some (v, rest) =>
        match t.assign? path last v with
        | none => none
        | some t =>
          match skipBlanks rest with
          | ',' :: more => inlineEntries fuel depth t more
          | '\x7d' :: more => some (t, more)
          | _ => none
    | _ => none

end

/-! ## 3. Lines -/

/-- What follows the rest of a line: blanks, a comment, and its end or the end
of the text. -/
def lineEnd (cs : List Char) : Option (List Char) :=
  match skipComment (skipBlanks cs) with
  | [] => some []
  | rest => afterNewline rest

/-- A header's key and closing brackets. -/
def header (close : List Char) (cs : List Char) : Option (List String × List Char) := do
  let (path, last, rest) ← key cs
  if close.isPrefixOf rest then some (path ++ [last], rest.drop close.length) else none

/-- Reads one line. -/
def line (p : Progress) (cs : List Char) : Option (Progress × List Char) :=
  match cs with
  | '#' :: _ => (lineEnd cs).map (p, ·)
  | '\n' :: rest => some (p, rest)
  | '\r' :: _ => (afterNewline cs).map (p, ·)
  | '[' :: '[' :: rest => do
    let (path, rest) ← header [']', ']'] rest
    let rest ← lineEnd rest
    let p ← p.openItem? path
    some (p, rest)
  | '[' :: rest => do
    let (path, rest) ← header [']'] rest
    let rest ← lineEnd rest
    let p ← p.openTable? path
    some (p, rest)
  | cs => do
    let (path, last, rest) ← key cs
    let rest ← expect '=' rest
    let (v, rest) ← value (2 * rest.length + 2) 0 (skipBlanks rest)
    let rest ← lineEnd rest
    let p ← p.assign? path last v
    some (p, rest)

/-- Reads lines to the end of the text. -/
def lines : Nat → Progress → List Char → Option Progress
  | 0, _, _ => none
  | fuel + 1, p, cs =>
    match skipBlanks cs with
    | [] => some p
    | cs =>
      match line p cs with
      | some (p, rest) => lines fuel p rest
      | none => none

/-- The document of a TOML text. A byte order mark in front does not count. -/
def parse? (text : String) : Option Document := do
  let cs := match text.toList with
    | '\ufeff' :: rest => rest
    | cs => cs
  let p ← lines (cs.length + 1) .start cs
  let root ← p.settle?
  some (.record (Node.members root.entries))

end TelemetryControl.Toml
