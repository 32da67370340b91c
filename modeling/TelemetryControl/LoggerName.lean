/-
TelemetryControl.LoggerName — dotted names and the walk to the root.

A logger inherits from the loggers that enclose it. `a.b.c` is enclosed by
`a.b` and by `a`, each the name cut off before one of its dots, and every
logger is enclosed by the root, whose name is empty. `walk` lists the names
that can decide for a logger, most specific first, and `resolve` takes the
first of them that has a value. Nothing is assumed of a name: leading,
trailing and doubled dots are cut like any other.
-/
import TelemetryControl.Text.Ascii
import TelemetryControl.Text.Blank

namespace TelemetryControl.LoggerName

/-- The name of the logger that encloses every other. -/
def root : String := ""

/-! ## 1. Cutting at dots -/

/-- What stands before each dot of a name, the shortest first. -/
def heads : List Char → List (List Char)
  | [] => []
  | c :: rest =>
    let longer := (heads rest).map (c :: ·)
    if c = '.' then [] :: longer else longer

/-- The names cut off before a dot of the name, the longest first. -/
def ancestors (name : String) : List String :=
  (heads name.toList).reverse.map String.ofList

/-- The name and its ancestors, most specific first. -/
def lineage (name : String) : List String :=
  name :: ancestors name

/-- The names that can decide for a logger, most specific first: its lineage,
then the root unless the lineage already ends there. -/
def walk (name : String) : List String :=
  let line := lineage name
  if line.getLast? = some root then line else line ++ [root]

/-- The value of the first name on the walk that has one. -/
def resolve {α : Type} (find : String → Option α) (name : String) : Option α :=
  (walk name).findSome? find

/-- The names that `resolve` asks, in order: up to the first with a value. -/
def asked {α : Type} (find : String → Option α) (name : String) : List String :=
  upTo (walk name)
where
  /-- The list up to and with the first name that has a value. -/
  upTo : List String → List String
    | [] => []
    | n :: rest => if (find n).isSome then [n] else n :: upTo rest

/-! ## 2. Spellings -/

/-- The name that a configured name means: blanks at its ends do not count, and
the word ROOT in any case is the root. -/
def normalize (name : String) : String :=
  let trimmed := Text.trim name
  if Text.sameLetters trimmed "ROOT" then root else trimmed

/-- A module path with a dot for each pair of colons, pairs taken from the left. -/
def dotted : List Char → List Char
  | [] => []
  | [c] => [c]
  | c :: d :: rest => if c = ':' ∧ d = ':' then '.' :: dotted rest else c :: dotted (d :: rest)

/-- The logger that records of a module go to. -/
def ofTarget (target : String) : String :=
  String.ofList (dotted target.toList)

end TelemetryControl.LoggerName
