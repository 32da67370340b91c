/-
TelemetryControl.Options — reading command lines.

An option takes one value and may be given once. Its value follows as the
next word, or after an equals sign, or, for the one-letter form, directly.
A word that starts with a hyphen is never taken for a value, unless it is
the hyphen alone. Two hyphens end the options. Asking for help wins over
all that comes after it, and a mistake does too.
-/
import TelemetryControl.Text.Ascii

namespace TelemetryControl

/-- Why a command line runs nothing. -/
inductive Usage where
  /-- Help was asked for. -/
  | help
  /-- The command line makes no sense. -/
  | mistake
deriving DecidableEq, Repr

/-- The exit code that a command line ends with. -/
def Usage.exit : Usage → Nat
  | .help => 0
  | .mistake => 2

/-- An option that takes a value. -/
structure OptionSpec where
  letter : Char
  word : String
  /-- Whether its value may be empty. -/
  mayBeEmpty : Bool
deriving DecidableEq, Repr

namespace Options

/-- The options given, by their letters. -/
abbrev Given := List (Char × String)

/-- Whether a word can be a value or an operand. -/
def isOperand (word : String) : Bool :=
  word.toList.head? != some '-' || word == "-"

/-- The options with one more; none may be given twice. -/
def give (spec : OptionSpec) (value : String) (given : Given) : Except Usage Given :=
  if given.any (·.1 == spec.letter) || (value.isEmpty && !spec.mayBeEmpty) then .error .mistake
  else .ok (given ++ [(spec.letter, value)])

/-- What a word asks for. -/
inductive Asked where
  | help
  | mistake
  | endOfOptions
  /-- An option, perhaps with its value attached. -/
  | option (spec : OptionSpec) (value : Option String)
  | operand
deriving DecidableEq, Repr

/-- What a word asks for where options may stand. -/
def asked (specs : List OptionSpec) (word : String) : Asked :=
  match word.toList with
  | ['-', '-'] => .endOfOptions
  | '-' :: '-' :: long =>
    let name := long.takeWhile (· != '=')
    let value :=
      match long.drop name.length with
      | '=' :: v => some (String.ofList v)
      | _ => none
    if String.ofList name = "help" then (if value.isNone then .help else .mistake)
    else
      match specs.find? (fun s => s.word == String.ofList name) with
      | some s => .option s value
      | none => .mistake
  | '-' :: c :: more =>
    if c = 'h' then .help
    else
      match specs.find? (fun s => s.letter == c) with
      | none => .mistake
      | some s =>
        .option s
          (match more with
            | [] => none
            | '=' :: v => some (String.ofList v)
            | v => some (String.ofList v))
  | _ => .operand

/-- Reads options up to the first operand; that and all after it are left. -/
def read (specs : List OptionSpec) (given : Given) :
    List String → Except Usage (Given × List String)
  | [] => .ok (given, [])
  | word :: rest =>
    match asked specs word with
    | .help => .error .help
    | .mistake => .error .mistake
    | .endOfOptions => if rest.isEmpty then .ok (given, []) else .error .mistake
    | .operand => .ok (given, word :: rest)
    | .option s (some value) =>
      match give s value given with
      | .error u => .error u
      | .ok given => read specs given rest
    | .option s none =>
      match rest with
      | [] => .error .mistake
      | value :: rest =>
        if isOperand value then
          match give s value given with
          | .error u => .error u
          | .ok given => read specs given rest
        else .error .mistake
termination_by words => words.length

/-- Reads exactly so many operands, among which help may be asked for. -/
def operands (count : Nat) (mayBeEmpty : Bool) : List String → Except Usage (List String)
  | [] => if count = 0 then .ok [] else .error .mistake
  | word :: rest =>
    match asked [] word with
    | .help => .error .help
    | .endOfOptions =>
      if rest.length = count && (mayBeEmpty || rest.all (!·.isEmpty)) then .ok rest
      else .error .mistake
    | .operand =>
      if count = 0 || (word.isEmpty && !mayBeEmpty) then .error .mistake
      else (operands (count - 1) mayBeEmpty rest).map (word :: ·)
    | _ => .error .mistake

/-- The value of an option, or a value for when it is not given. -/
def valueOr (given : Given) (letter : Char) (value : String) : String :=
  (given.lookup letter).getD value

end Options

end TelemetryControl
