/-
TelemetryControl.Toml.Tables — how headers and dotted keys build tables.

A table is opened once. Headers may create the tables on the way to theirs,
and such a table may still be opened by a header of its own; dotted keys
create tables too, and those may only be extended by dotted keys. A header
in double brackets adds a table to a list of tables, and a later path
through that name leads into the newest of them.
-/
import TelemetryControl.Document

namespace TelemetryControl.Toml

/-- What a name stands for while a text is being read. -/
inductive Node where
  /-- A finished value; nothing can be added to it. -/
  | value (v : Document)
  /-- A table: whether it was only implied so far, whether dotted keys made it. -/
  | table (implied dotted : Bool) (entries : List (String × Node))
  /-- A list of tables, the newest first. -/
  | tables (newestFirst : List (List (String × Node)))
deriving Inhabited

namespace Node

mutual

/-- The document of a node. -/
def document : Node → Document
  | value v => v
  | table _ _ entries => .record (members entries)
  | tables ts => .list (records ts).reverse

/-- The members of a table. -/
def members : List (String × Node) → List (Option String × Document)
  | [] => []
  | (k, n) :: rest => (some k, document n) :: members rest

/-- The records of a list of tables. -/
def records : List (List (String × Node)) → List Document
  | [] => []
  | t :: rest => .record (members t) :: records rest

end

end Node

/-- A table while it is being read. -/
structure OpenTable where
  implied : Bool
  dotted : Bool
  entries : List (String × Node)
deriving Inhabited

namespace OpenTable

/-- A table that was opened and is empty. -/
def opened : OpenTable := ⟨false, false, []⟩

def find? (t : OpenTable) (key : String) : Option Node :=
  t.entries.lookup key

/-- Adds an entry, or replaces the entry of its name in place. -/
def put (t : OpenTable) (key : String) (n : Node) : OpenTable :=
  if (t.entries.lookup key).isSome then
    { t with entries := t.entries.map (fun e => if e.1 = key then (key, n) else e) }
  else { t with entries := t.entries ++ [(key, n)] }

def remove (t : OpenTable) (key : String) : OpenTable :=
  { t with entries := t.entries.filter (fun e => e.1 != key) }

/-- Changes the table at the end of a path. Tables missing on the way are
created; dotted keys may not pass through a table that was opened. -/
def at? (byDots : Bool) (change : OpenTable → Option OpenTable) :
    List String → OpenTable → Option OpenTable
  | [], t => change t
  | key :: rest, t =>
    match t.find? key with
    | none => do
      let inner ← at? byDots change rest ⟨true, byDots, []⟩
      some (t.put key (.table inner.implied inner.dotted inner.entries))
    | some (.value _) => none
    | some (.table implied dotted entries) =>
      if byDots && !implied then none
      else do
        let inner ← at? byDots change rest ⟨implied, dotted, entries⟩
        some (t.put key (.table inner.implied inner.dotted inner.entries))
    | some (.tables []) => none
    | some (.tables (newest :: older)) => do
      let inner ← at? byDots change rest ⟨false, false, newest⟩
      some (t.put key (.tables (inner.entries :: older)))

/-- Gives a value to a possibly dotted key that has none yet. -/
def assign? (t : OpenTable) (path : List String) (key : String) (v : Document) :
    Option OpenTable :=
  at? true (fun inner =>
    if inner.dotted = path.isEmpty then none
    else if (inner.find? key).isSome then none
    else some (inner.put key (.value v))) path t

end OpenTable

/-- A text half read: the tables finished so far, and the table being filled
with the path that it belongs at. -/
structure Progress where
  root : OpenTable
  current : OpenTable
  path : List String
  /-- Whether the current table is an item of a list of tables. -/
  isItem : Bool
deriving Inhabited

namespace Progress

def start : Progress := ⟨.opened, .opened, [], false⟩

/-- Puts the current table at its place. -/
def settle? (p : Progress) : Option OpenTable :=
  match p.path.getLast? with
  | none => some p.current
  | some key =>
    OpenTable.at? false (fun parent =>
      if p.isItem then
        match parent.find? key with
        | none => some (parent.put key (.tables [p.current.entries]))
        | some (.tables ts) => some (parent.put key (.tables (p.current.entries :: ts)))
        | some _ => none
      else some (parent.put key (.table false false p.current.entries)))
      p.path.dropLast p.root

/-- Opens the table of a header. -/
def openTable? (p : Progress) (path : List String) : Option Progress := do
  let root ← p.settle?
  let key ← path.getLast?
  let parent ← (OpenTable.at? false some path.dropLast root).bind (seek path.dropLast)
  let entries ←
    match parent.find? key with
    | none => some []
    | some (.table true false entries) => some entries
    | some _ => none
  let root ← OpenTable.at? false (fun t => some (t.remove key)) path.dropLast root
  some ⟨root, ⟨false, false, entries⟩, path, false⟩
where
  /-- The table at the end of a path. -/
  seek : List String → OpenTable → Option OpenTable
    | [], t => some t
    | key :: rest, t =>
      match t.find? key with
      | some (.table i d entries) => seek rest ⟨i, d, entries⟩
      | some (.tables (newest :: _)) => seek rest ⟨false, false, newest⟩
      | _ => none

/-- Adds a table to the list of tables of a header. -/
def openItem? (p : Progress) (path : List String) : Option Progress := do
  let root ← p.settle?
  let key ← path.getLast?
  let root ← OpenTable.at? false (fun parent =>
    match parent.find? key with
    | none => some parent
    | some (.tables _) => some parent
    | some _ => none) path.dropLast root
  some ⟨root, .opened, path, true⟩

/-- Gives a value to a key of the current table. -/
def assign? (p : Progress) (path : List String) (key : String) (v : Document) : Option Progress :=
  (p.current.assign? path key v).map (fun t => { p with current := t })

end Progress

end TelemetryControl.Toml
