/-
TelemetryControl.Document — structured data, whatever format it came in.

Configurations and snapshots arrive as JSON or as TOML. Both become a
document first, and one set of readers takes values out of documents. A
record with known fields may also be written as a list of its fields in
their order. A known field that is given twice is refused; a table of
arbitrary names keeps the last value of a name.
-/
import TelemetryControl.Json
import TelemetryControl.NameTable
import TelemetryControl.Severity

namespace TelemetryControl

/-- A value of structured data. -/
inductive Document where
  | null
  | boolean (b : Bool)
  | integer (i : Int)
  /-- A double, or none for a number beyond the range. -/
  | real (x : Option Binary64)
  /-- A text, or none for characters that are no text. -/
  | text (s : Option String)
  | list (items : List Document)
  | record (members : List (Option String × Document))
deriving Repr, Inhabited

/-- How closely the readers of a format hold to it. -/
inductive Strictness where
  /-- A list read as a record holds no more items than the record has fields, and
  nothing is said by null alone. -/
  | strict
  /-- Surplus items are left out of account, and an empty list or record says
  nothing too. -/
  | lenient
deriving DecidableEq, Repr

namespace Document

/-! ## 1. From JSON -/

/-- A number: an integer if it is written as one and fits in a signed or
unsigned 64-bit word, and a double otherwise. -/
def ofNumeral (n : Numeral) : Document :=
  let v := Numeral.ofDigits n.whole
  if n.isIntegral = true ∧ n.negative = false ∧ v < Nat.pow 2 64 then .integer v
  else if n.isIntegral = true ∧ n.negative = true ∧ 0 < v ∧ v ≤ Nat.pow 2 63 then
    .integer (-(v : Int))
  else .real n.stepwise

mutual

/-- The document of a JSON value. -/
def ofJson : Json → Document
  | .null => .null
  | .bool b => .boolean b
  | .number n => ofNumeral n
  | .string s => .text s
  | .array items => .list (ofItems items)
  | .object members => .record (ofMembers members)

/-- The documents of the items of an array. -/
def ofItems : List Json → List Document
  | [] => []
  | v :: rest => ofJson v :: ofItems rest

/-- The documents of the members of an object. -/
def ofMembers : List (Option String × Json) → List (Option String × Document)
  | [] => []
  | (k, v) :: rest => (k, ofJson v) :: ofMembers rest

end

/-! ## 2. Values -/

def text? : Document → Option String
  | text s => s
  | _ => none

def boolean? : Document → Option Bool
  | boolean b => some b
  | _ => none

/-- A natural below 2⁶⁴. -/
def word? : Document → Option Nat
  | integer i => if 0 ≤ i ∧ i.toNat < Nat.pow 2 64 then some i.toNat else none
  | _ => none

/-- A double; any integer is one too. -/
def real? : Document → Option Binary64
  | integer i => some (.ofInt i)
  | real x => x
  | _ => none

def severity? (d : Document) : Option Severity :=
  d.text?.bind Severity.ofText?

/-- A value or null. -/
def optional? {α : Type} (read : Document → Option α) : Document → Option (Option α)
  | null => some none
  | d => (read d).map some

/-- A list of values. -/
def list? {α : Type} (read : Document → Option α) : Document → Option (List α)
  | list items => items.mapM read
  | _ => none

/-- A table from arbitrary names to values, the last value of a name counting. -/
def table? {α : Type} (read : Document → Option α) : Document → Option (NameTable α)
  | record members =>
    (members.mapM (fun (m : Option String × Document) =>
      m.1.bind (fun k => (read m.2).map (fun v => (k, v))))).map NameTable.ofList
  | _ => none

/-! ## 3. Records with known fields -/

/-- The value of a known field; refused when the field is given twice. -/
def field? (members : List (Option String × Document)) (name : String) :
    Option (Option Document) :=
  match members.filter (fun m => m.1 == some name) with
  | [] => some none
  | [m] => some (some m.2)
  | _ => none

/-- The values of known fields, none for a field that is not given. Names of
other fields have to be texts; their values are not looked at. -/
def fields? (strictness : Strictness) (names : List String) :
    Document → Option (List (Option Document))
  | record members =>
    if members.all (fun m => m.1.isSome) then names.mapM (field? members) else none
  | list items =>
    if strictness = .strict ∧ names.length < items.length then none
    else some ((List.range names.length).map (fun i => items[i]?))
  | _ => none

/-- Whether a document says nothing. -/
def isVoid (strictness : Strictness) : Document → Bool
  | null => true
  | list [] => strictness == .lenient
  | record [] => strictness == .lenient
  | _ => false

/-- The value of a field that may be missing. -/
def orDefault {α : Type} (value : α) (read : Document → Option α) : Option Document → Option α
  | none => some value
  | some d => read d

/-- The value of a field that must be there. -/
def required {α : Type} (read : Document → Option α) : Option Document → Option α
  | none => none
  | some d => read d

end Document

end TelemetryControl
