/-
TelemetryControl.SocketAddress.Lookup — the addresses of host texts.

A host is given by its address, in any spelling of version 4 that was ever in
use or in version 6, or by its name. Of names only that of this machine is
known. Another name would have to be asked for, and nobody answers; a text
that cannot be a name is not asked for at all.
-/
import TelemetryControl.SocketAddress
import TelemetryControl.Text.Ascii

namespace TelemetryControl.SocketAddress

/-- Why a host text has no address. -/
inductive LookupFault where
  /-- The text holds the character that ends texts. -/
  | ended
  /-- The text is no address and cannot be a name. -/
  | noName
  /-- The name is not known here, and nobody answers. -/
  | unanswered
deriving DecidableEq, Repr

/-! ## 1. Names -/

/-- The characters that the escapes of a name stand for, each with whether it was
escaped. A backslash takes the meaning of the character after it, or stands
with three digits for a character. -/
def unescaped? : List Char → Option (List (Char × Bool))
  | [] => some []
  | '\\' :: rest =>
    match rest with
    | [] => none
    | c :: more =>
      if c.isDigit then
        match more with
        | d :: e :: later =>
          if d.isDigit && e.isDigit then
            match Address.numeral? 10 [c, d, e] with
            | some n =>
              if n < 256 then (unescaped? later).map ((Char.ofNat n, true) :: ·) else none
            | none => none
          else none
        | _ => none
      else (unescaped? more).map ((c, true) :: ·)
  | c :: rest => (unescaped? rest).map ((c, false) :: ·)

/-- Labels of a name, cut at the dots that were not escaped. -/
def nameLabels : List (Char × Bool) → List (List Char)
  | [] => [[]]
  | (c, escaped) :: rest =>
    if c = '.' ∧ escaped = false then [] :: nameLabels rest
    else
      match nameLabels rest with
      | [] => [[c]]
      | label :: more => (c :: label) :: more

def isNameChar (c : Char) : Bool :=
  c.isAlphanum || c == '-' || c == '_'

/-- How long a label may be. -/
def longestLabel : Nat := 63

/-- How long a name may be with a length before each label and one at the end. -/
def longestName : Nat := 255

/-- Whether labels may stand in a name: each has characters, all of them usual, and
they fit. -/
def canName (labels : List (List Char)) : Bool :=
  !labels.isEmpty &&
    labels.all (fun l => !l.isEmpty && l.length ≤ longestLabel && l.all isNameChar) &&
    labels.foldl (fun n l => n + l.length + 1) 1 ≤ longestName

/-- Labels without the empty one that a dot at the end leaves. -/
def withoutRoot (labels : List (List Char)) : List (List Char) :=
  match labels.getLast? with
  | some [] => labels.dropLast
  | _ => labels

/-- Whether a text can be the name of a host. -/
def isName (host : List Char) : Bool :=
  host == ['.'] ||
    (match unescaped? host with
      | none => false
      | some cs => canName (withoutRoot (nameLabels cs)) && cs.head?.all (·.1 != '-'))

/-! ## 2. Addresses -/

/-- The octets that a host text spells, in any spelling. -/
def hostOctets? (host : List Char) : Option (List Nat) :=
  ((((Text.pieces '.' host).mapM Address.number?).bind Address.ofNumbers?)).map Address.octetsOf

/-- Whether the scope of an address can be a network interface: the address means
something only on one link. -/
def isOnLink (pieces : List Nat) : Bool :=
  match pieces with
  | p :: _ => (0xFE80 ≤ p && p ≤ 0xFEBF) || (0xFF00 ≤ p && (p % 16 == 1 || p % 16 == 2))
  | [] => false

/-- The network interface that is always there. -/
def loopback : List Char := ['l', 'o']

/-- The scope that follows an address and a percent sign. -/
def hostScope? (pieces : List Nat) (cs : List Char) : Option Nat :=
  if isOnLink pieces && cs == loopback then some 1
  else if cs.isEmpty then none
  else
    (Address.numeral? 10 cs).bind (fun n => if n < Nat.pow 2 32 then some n else none)

/-- The pieces and the scope of an address of version 6 that a host text spells. -/
def hostPieces? (host : List Char) : Option (List Nat × Nat) :=
  let address := host.takeWhile (· != '%')
  (Address.version6? address).bind (fun pieces =>
    match host.drop address.length with
    | [] => some (pieces, 0)
    | _ :: scope => (hostScope? pieces scope).map (pieces, ·))

/-- The name of this machine. -/
def localName : String := "localhost"

/-- The address of a host with a port. -/
def ofHost (host : List Char) (port : Nat) : Except LookupFault SocketAddress :=
  if host.any (fun c => c.toNat = 0) then .error .ended
  else
    match hostOctets? host, hostPieces? host with
    | some octets, _ => .ok (.version4 octets port)
    | none, some (pieces, scope) => .ok (.version6 pieces scope port)
    | none, none =>
      if Text.sameLetters (String.ofList host) localName then .ok (.version4 [127, 0, 0, 1] port)
      else if isName host then .error .unanswered
      else .error .noName

end TelemetryControl.SocketAddress
