/-
TelemetryControl.Json — JSON values and their compact text.

A value keeps what its text decides: a number stays the numeral it was
written as, since its value depends on who reads it, and a text that no
character sequence corresponds to (ill-formed UTF-8, half a surrogate pair)
is kept as `none`, since such a text does no harm where nobody looks at it.
`chars` writes a value without any space.
-/
import TelemetryControl.Number.Layout
import TelemetryControl.Text.Hex

namespace TelemetryControl

/-- A JSON value. -/
inductive Json where
  | null
  | bool (b : Bool)
  | number (n : Numeral)
  /-- A text, or none where the characters written are no text. -/
  | string (s : Option String)
  | array (items : List Json)
  | object (members : List (Option String × Json))
deriving Repr, Inhabited

namespace Json

/-! ## 1. Writing -/

/-- One character of a text between quotes. -/
def escape (c : Char) : List Char :=
  if c = '"' then ['\\', '"']
  else if c = '\\' then ['\\', '\\']
  else if c.toNat = 0x08 then ['\\', 'b']
  else if c.toNat = 0x0C then ['\\', 'f']
  else if c = '\n' then ['\\', 'n']
  else if c = '\r' then ['\\', 'r']
  else if c = '\t' then ['\\', 't']
  else if c.toNat < 0x20 then ['\\', 'u'] ++ Text.hexDigits 4 c.toNat
  else [c]

/-- A text between quotes. -/
def quote (s : String) : List Char :=
  '"' :: s.toList.flatMap escape ++ ['"']

/-- Pieces with a comma between them. -/
def commas : List (List Char) → List Char
  | [] => []
  | [p] => p
  | p :: rest => p ++ ',' :: commas rest

mutual

/-- The compact text of a value. -/
def chars : Json → List Char
  | null => "null".toList
  | bool true => "true".toList
  | bool false => "false".toList
  | number n => n.chars .always
  | string s => quote (s.getD "")
  | array items => '[' :: commas (itemChars items) ++ [']']
  | object members => '\x7b' :: commas (memberChars members) ++ ['\x7d']

/-- The texts of the items of an array. -/
def itemChars : List Json → List (List Char)
  | [] => []
  | v :: rest => chars v :: itemChars rest

/-- The texts of the members of an object. -/
def memberChars : List (Option String × Json) → List (List Char)
  | [] => []
  | (k, v) :: rest => (quote (k.getD "") ++ ':' :: chars v) :: memberChars rest

end

/-- The compact text of a value. -/
def text (v : Json) : String :=
  String.ofList v.chars

/-! ## 2. Building -/

/-- A text value. -/
def str (s : String) : Json := .string (some s)

/-- A natural number. -/
def nat (n : Nat) : Json := .number ⟨false, Numeral.digitsOf n, [], none⟩

/-- An integer. -/
def int (i : Int) : Json := .number ⟨decide (i < 0), Numeral.digitsOf i.natAbs, [], none⟩

/-- A double; infinities and what is no number have no place in JSON. -/
def real (x : Binary64) : Json :=
  if x.isSpecial then .null else .number (Layout.json.numeral x)

/-- An object with the given members in order. -/
def record (members : List (String × Json)) : Json :=
  .object (members.map (fun m => (some m.1, m.2)))

/-- The member of an object. -/
def member? (name : String) : Json → Option Json
  | object members => members.findSome? (fun m => if m.1 = some name then some m.2 else none)
  | _ => none

end Json

end TelemetryControl
