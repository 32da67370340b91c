/-
TelemetryControl.Directory.Change — how the files of a directory change.

A change leaves a directory and the signals that the system gives of it. A
signal tells of a name in a directory under which something was made, written,
moved in or moved out, or of a node that was itself written, moved or taken
out of its place. That a name is gone is not a signal: there is nothing new
to read.
-/
import TelemetryControl.Directory

namespace TelemetryControl

/-- What the system tells of a change. -/
inductive Signal where
  /-- A name in the directory of an identity. -/
  | named (directory : Nat) (name : String)
  /-- The node of an identity. -/
  | itself (identity : Nat)
deriving DecidableEq, Repr

namespace Directory

/-- A change; each place is given by the names on the way. -/
inductive Change where
  /-- A node is written in place, directories on the way being made. -/
  | written (names : List String) (node : Node)
  /-- What stands at a place gets another, replacing what stood there. -/
  | moved (source target : List String)
  | removed (names : List String)
deriving DecidableEq, Repr

/-- The signal of a name, if the directory that it is in stands under this one. -/
def signalAt (d : Directory) (names : List String) : List Signal :=
  match d.identityAt? (.inside names.dropLast), names.getLast? with
  | some i, some name => [.named i name]
  | _, _ => []

/-- The signal of the node at a place, if anything stands there. -/
def signalOf (d : Directory) (names : List String) : List Signal :=
  ((d.identityAt? (.inside names)).map Signal.itself).toList

/-! ## 1. Writing -/

/-- The directory with a new node at a place where nothing stands. -/
def make (d : Directory) (names : List String) (node : Node) : Directory × List Signal :=
  (⟨(names, ⟨d.nextIdentity, node⟩) :: d.entries, d.nextIdentity + 1⟩, d.signalAt names)

/-- The directory with a directory at each of some places, made where nothing
stands, unless a file stands at one of them. -/
def makeWay (d : Directory) : List (List String) → Option (Directory × List Signal)
  | [] => some (d, [])
  | names :: rest =>
    match d.nodeAt? (.inside names) with
    | some .directory => d.makeWay rest
    | some (.file _) => none
    | none =>
      let (d, signals) := d.make names .directory
      (d.makeWay rest).map (fun r => (r.1, signals ++ r.2))

/-- The content of the file of an identity changed. -/
def update (d : Directory) (identity : Nat) (f : List UInt8 → List UInt8) : Directory :=
  { d with
    entries := d.entries.map (fun e =>
      match e.2.node with
      | .file content =>
        if e.2.identity = identity then (e.1, ⟨identity, .file (f content)⟩) else e
      | .directory => e) }

/-- The directory with a node written at a place. A directory that is there stays
as it is, and a file and a directory do not replace each other. -/
def write (d : Directory) (names : List String) (node : Node) : Directory × List Signal :=
  let way := (List.range names.length).map (fun n => names.take n)
  match d.makeWay way with
  | none => (d, [])
  | some (made, signals) =>
    match made.nodeAt? (.inside names), node with
    | none, _ =>
      let (done, more) := made.make names node
      (done, signals ++ more)
    | some (.file _), .file content =>
      match made.identityAt? (.inside names) with
      | some i =>
        (made.update i (fun _ => content), signals ++ made.signalAt names ++ [.itself i])
      | none => (made, signals)
    | _, _ => (made, signals)

/-- The file that a path leads to, opened for appending and made if it is not
there: its identity, none outside the directory. -/
def openToAppend (d : Directory) (path : String) : Except FileFault (Directory × Option Nat) :=
  match d.placeToAppend path with
  | .error f => .error f
  | .ok (.outside _) => .ok (d, none)
  | .ok (.inside names) =>
    match d.identityAt? (.inside names) with
    | some i => .ok (d, some i)
    | none => .ok ((d.make names (.file [])).1, some d.nextIdentity)

/-- The directory after octets were appended to the file of an identity, wherever
it stands now. -/
def append (d : Directory) (identity : Nat) (octets : List UInt8) : Directory × List Signal :=
  (d.update identity (· ++ octets),
    match d.entries.find? (fun e => e.2.identity = identity) with
    | some e => d.signalAt e.1 ++ [.itself identity]
    | none => [])

/-! ## 2. Moving and removing -/

/-- Whether nothing stands under a place. -/
def isBare (d : Directory) (names : List String) : Bool :=
  d.entries.all (fun e => !(names.isPrefixOf e.1) || e.1 == names)

/-- Whether what stands at a place can take another. -/
def canMove (d : Directory) (source target : List String) : Bool :=
  source != target && !(source.isPrefixOf target) &&
    d.nodeAt? (.inside target.dropLast) == some .directory &&
    (match d.nodeAt? (.inside source), d.nodeAt? (.inside target) with
      | some _, none => true
      | some (.file _), some (.file _) => true
      | some .directory, some .directory => d.isBare target
      | _, _ => false)

/-- The directory after what stands at a place was moved to another. -/
def move (d : Directory) (source target : List String) : Directory × List Signal :=
  if d.canMove source target then
    ({ d with
        entries := (d.entries.filter (fun e => e.1 != target)).map (fun e =>
          if source.isPrefixOf e.1 then (target ++ e.1.drop source.length, e.2) else e) },
      d.signalAt source ++ d.signalAt target ++ d.signalOf source ++ d.signalOf target)
  else (d, [])

/-- The directory without what stands at a place. -/
def remove (d : Directory) (names : List String) : Directory × List Signal :=
  let gone := d.entries.filter (fun e => names.isPrefixOf e.1)
  ({ d with entries := d.entries.filter (fun e => !(names.isPrefixOf e.1)) },
    gone.filterMap (fun e =>
      match e.2.node with
      | .file _ => some (.itself e.2.identity)
      | .directory => none))

/-! ## 3. Changes -/

/-- The directory after a change, and the signals of it. -/
def change (d : Directory) : Change → Directory × List Signal
  | .written names node => d.write names node
  | .moved source target => d.move source target
  | .removed names => d.remove names

/-- The directory after several changes, and their signals. -/
def changeAll (d : Directory) (changes : List Change) : Directory × List Signal :=
  changes.foldl (fun r c =>
    let (d, signals) := r.1.change c
    (d, r.2 ++ signals)) (d, [])

end Directory

end TelemetryControl
