/-
TelemetryControl.Directory — the files that the agent can see.

A directory holds files and directories by their place under it. Each has an
identity of its own, which it keeps when it is moved or written to, so that a
file that is open and a directory that is watched are told from others that
come to stand in the same place. A path is walked piece by piece: each piece
needs a directory to be looked up in, two dots lead upwards, and of what lies
outside only that is known which every system has. A walk that fails says
why, in the words of the system.
-/
import TelemetryControl.FilePath
import TelemetryControl.Text.Ascii

namespace TelemetryControl

/-- Why a file could not be read. -/
inductive FileFault where
  | notFound
  | notDirectory
  | isDirectory
  | nameTooLong
  /-- The path holds a character that no path may hold. -/
  | badPath
  /-- The content is not a text. -/
  | notText
deriving DecidableEq, Repr

namespace FileFault

/-- The system's number for a fault, if it has one, and its kind. -/
def code : FileFault → Option Nat × String
  | notFound => (some 2, "NotFound")
  | notDirectory => (some 20, "NotADirectory")
  | isDirectory => (some 21, "IsADirectory")
  | nameTooLong => (some 36, "InvalidFilename")
  | badPath => (none, "InvalidInput")
  | notText => (none, "InvalidData")

/-- What a fault is called. -/
def phrase : FileFault → String
  | notFound => "No such file or directory"
  | notDirectory => "Not a directory"
  | isDirectory => "Is a directory"
  | nameTooLong => "File name too long"
  | badPath => "file name contained an unexpected NUL byte"
  | notText => "stream did not contain valid UTF-8"

/-- The wording of a fault. -/
def message (f : FileFault) : String :=
  match f.code.1 with
  | some n => f.phrase ++ " (os error " ++ toString n ++ ")"
  | none => f.phrase

/-- The fields of a fault as a shown value. -/
def shown (f : FileFault) : String :=
  match f.code.1 with
  | some n =>
    "Os \x7b code: " ++ toString n ++ ", kind: " ++ f.code.2 ++ ", message: \"" ++ f.phrase ++
      "\" \x7d"
  | none => "Error \x7b kind: " ++ f.code.2 ++ ", message: \"" ++ f.phrase ++ "\" \x7d"

end FileFault

/-- What stands at a place. -/
inductive Node where
  | file (content : List UInt8)
  | directory
deriving DecidableEq, Repr

/-- A node with its identity. -/
structure Entry where
  identity : Nat
  node : Node
deriving DecidableEq, Repr

/-- A place that a path leads to. -/
inductive Place where
  /-- A place under the directory, by the names on the way. -/
  | inside (names : List String)
  /-- A place that is not under the directory, by the names on the way from the
  root, as far as they are known. -/
  | outside (names : List String)
deriving DecidableEq, Repr

/-- A directory, as the places under it. -/
structure Directory where
  entries : List (List String × Entry)
  /-- The identity of the next node; all entries have lower ones. -/
  nextIdentity : Nat
deriving DecidableEq, Repr

namespace Directory

/-- The identity of the directory itself. -/
def ownIdentity : Nat := 0

def empty : Directory := ⟨[], ownIdentity + 1⟩

/-- What every system has outside: a few directories, and a file that is always
empty. -/
def system : List (List String × Node) :=
  [([], .directory), (["dev"], .directory), (["dev", "null"], .file []), (["etc"], .directory),
   (["tmp"], .directory), (["usr"], .directory), (["var"], .directory)]

/-! ## 1. Looking up -/

/-- What stands at a place, if anything does. -/
def nodeAt? (d : Directory) : Place → Option Node
  | .outside names => system.lookup names
  | .inside [] => some .directory
  | .inside names => (d.entries.lookup names).map (·.node)

/-- The identity of what stands at a place under the directory. -/
def identityAt? (d : Directory) : Place → Option Nat
  | .outside _ => none
  | .inside [] => some ownIdentity
  | .inside names => (d.entries.lookup names).map (·.identity)

/-- The place above a place. -/
def above : Place → Place
  | .inside [] => .outside []
  | .inside names => .inside names.dropLast
  | .outside names => .outside names.dropLast

/-- The place of a name in a place. -/
def below (p : Place) (name : String) : Place :=
  match p with
  | .inside names => .inside (names ++ [name])
  | .outside names => .outside (names ++ [name])

/-- How many octets a name may have. -/
def longestName : Nat := 255

/-- How many octets a path may have. -/
def longestPath : Nat := 4095

/-- The place that a name leads to. -/
def enter (d : Directory) (p : Place) (name : String) : Except FileFault Place :=
  match d.nodeAt? p with
  | none => .error .notFound
  | some (.file _) => .error .notDirectory
  | some .directory =>
    if name = "" ∨ name = "." then .ok p
    else if longestName < name.utf8ByteSize then .error .nameTooLong
    else if name = ".." then .ok (above p)
    else if (d.nodeAt? (below p name)).isSome then .ok (below p name)
    else .error .notFound

/-- Where a path starts. -/
def start (path : String) : Place :=
  if FilePath.isAbsolute path then .outside [] else .inside []

/-- The pieces of a path. -/
def steps (path : String) : List String :=
  (Text.pieces '/' path.toList).map String.ofList

/-- Whether a text holds the character that ends texts. -/
def holdsEnd (text : String) : Bool :=
  text.toList.contains (Char.ofNat 0)

/-- What is wrong with a path as a text, if anything is. -/
def pathFault? (path : String) : Option FileFault :=
  if holdsEnd path then some .badPath
  else if path.isEmpty then some .notFound
  else if longestPath < path.utf8ByteSize then some .nameTooLong
  else none

/-- The place that a path leads to. -/
def find (d : Directory) (path : String) : Except FileFault Place :=
  match pathFault? path with
  | some f => .error f
  | none => (steps path).foldlM d.enter (start path)

/-- The content of the file that a path leads to. -/
def read (d : Directory) (path : String) : Except FileFault (List UInt8) :=
  match d.find path with
  | .error f => .error f
  | .ok p =>
    match d.nodeAt? p with
    | some (.file content) => .ok content
    | some .directory => .error .isDirectory
    | none => .error .notFound

/-- The text of the file that a path leads to. -/
def readText (d : Directory) (path : String) : Except FileFault String :=
  match d.read path with
  | .error f => .error f
  | .ok content =>
    match Text.ofOctets? content with
    | some s => .ok s
    | none => .error .notText

/-- The place that the last name of a path has, whether anything stands there or
not; what stands before that name has to be a directory. -/
def target (d : Directory) (path : String) : Except FileFault Place :=
  let names := steps path
  match names.getLast?, (names.dropLast ++ ["."]).foldlM d.enter (start path) with
  | _, .error f => .error f
  | none, .ok p => .ok p
  | some name, .ok p => .ok (below p name)

/-- The place of a file that may be appended to, whether it is there yet or not.
No file is made where the path says that a directory stands. -/
def placeToAppend (d : Directory) (path : String) : Except FileFault Place :=
  match pathFault? path with
  | some f => .error f
  | none =>
    let trimmed := String.ofList (path.toList.reverse.dropWhile (· == '/')).reverse
    if trimmed ≠ path then
      if trimmed.isEmpty then .error .isDirectory
      else (d.target trimmed).bind (fun _ => .error .isDirectory)
    else
      match d.find path with
      | .ok p => if d.nodeAt? p = some .directory then .error .isDirectory else .ok p
      | .error .notFound => d.target path
      | .error f => .error f

end Directory

end TelemetryControl
