/-
TelemetryControl.FilePath — the parts of a path text.

A path is a text with slashes between its parts. Empty parts and single dots
count for nothing, so `dir/x.toml/` still ends in the part `x.toml`. The last
part names a file unless it is two dots, and the file's extension is what
stands after the last dot of that name, a leading dot not counting.
-/
import TelemetryControl.Text.Pieces

namespace TelemetryControl.FilePath

/-- Whether a path starts at the root directory. -/
def isAbsolute (path : String) : Bool :=
  path.toList.head? == some '/'

/-- The parts of a path that count, without the root directory. A single dot
counts only where a relative path starts with it. -/
def parts (path : String) : List String :=
  let ps := (Text.pieces '/' path.toList).map String.ofList
  match ps with
  | "." :: rest => "." :: rest.filter (fun p => p != "" && p != ".")
  | ps => ps.filter (fun p => p != "" && p != ".")

/-- The name of the file that a path leads to. -/
def fileName? (path : String) : Option String :=
  match (parts path).getLast? with
  | none => none
  | some ".." => none
  | some "." => none
  | some name => some name

/-- What stands after the last dot of a file name, unless nothing stands before
that dot. -/
def extension? (path : String) : Option String :=
  (fileName? path).bind (fun name =>
    let r := name.toList.reverse
    let tail := r.takeWhile (· != '.')
    match r.drop tail.length with
    | [] => none
    | [_] => none
    | _ => some (String.ofList tail.reverse))

/-- Pieces of a path without those at the end that do not count. The first piece
counts if it is a single dot, and stands for the root directory if it is empty. -/
def withoutIdle : List String → List String
  | [] => []
  | first :: rest =>
    first :: (rest.reverse.dropWhile (fun p => p == "" || p == ".")).reverse

/-- The path of the directory that a path's last part lies in, as it is written
there: empty for the working directory, none if the path has no part. -/
def parent? (path : String) : Option String :=
  if (parts path).isEmpty then none
  else
    let pieces := (Text.pieces '/' path.toList).map String.ofList
    let front := withoutIdle (withoutIdle pieces).dropLast
    some (if front = [""] then "/" else String.intercalate "/" front)

end TelemetryControl.FilePath
