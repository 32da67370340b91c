/-
TelemetryControl.Watch — noticing that the snapshot file has changed.

What is watched is the directory in which the file lies, so that a file put
in place by renaming is noticed like one that is written. The watch stays
with that directory when it is moved, and does not pass to another that
takes its place. A signal counts when it is about the file's name in that
directory. One about the directory itself bears the directory's own name,
and counts if that is the file's name too.
-/
import TelemetryControl.Directory.Change

namespace TelemetryControl

/-- A watch over one file name in one directory. -/
structure Watch where
  /-- The identity of what is watched, none outside the directory. -/
  root : Option Nat
  /-- The name by which the directory was found. -/
  rootName : Option String
  fileName : Option String
deriving DecidableEq, Repr

namespace Watch

/-- The path of the directory to watch. -/
def rootPath (path : String) : String :=
  match FilePath.parent? path with
  | none => "."
  | some parent => if parent.isEmpty then "." else parent

/-- How many octets the way to the working directory takes of a path. -/
def wayLength : Nat := 20

/-- Whether a directory's path can be used for a watch: it is made to start at the
root, and is not too long then. -/
def isUsable (root : String) : Bool :=
  !Directory.holdsEnd root &&
    root.utf8ByteSize + (if FilePath.isAbsolute root then 0 else wayLength) ≤
      Directory.longestPath

/-- A watch on the file of a path, unless nothing stands where its directory
should. -/
def start? (d : Directory) (path : String) : Option Watch :=
  let root := rootPath path
  if isUsable root then
    match d.find root with
    | .error _ => none
    | .ok p => some ⟨d.identityAt? p, FilePath.fileName? root, FilePath.fileName? path⟩
  else none

/-- Whether a signal is about the watched file. -/
def isRelevant (w : Watch) : Signal → Bool
  | .named directory name => w.root == some directory && w.fileName == some name
  | .itself identity => w.root == some identity && w.rootName == w.fileName

end Watch

end TelemetryControl
