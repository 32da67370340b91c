/-
TelemetryControl.Url.Version4 — the spellings of a version 4 host.

A locator may write an address of version 4 as one to four numbers between
dots, each decimal, octal after a zero, or hexadecimal after `0x`. All but
the last are octets, and the last fills the bits that are left. A host name
whose last label is a number has to be such an address.
-/
import TelemetryControl.Address

namespace TelemetryControl.Url

/-- One number of an address; hexadecimal without digits is zero. -/
def addressNumber? (cs : List Char) : Option Nat :=
  if cs = ['0', 'x'] ∨ cs = ['0', 'X'] then some 0 else Address.number? cs

/-- The labels of a host name, the last left out if it is empty. -/
def labels (host : List Char) : List (List Char) :=
  let ps := Text.pieces '.' host
  if ps.getLast? = some [] then ps.dropLast else ps

/-- Whether a host name must be read as an address: its last label is a number
or looks like one. -/
def endsInNumber (host : List Char) : Bool :=
  match (labels host).getLast? with
  | none => false
  | some l => (!l.isEmpty && l.all Char.isDigit) || (addressNumber? l).isSome

/-- The address that a host name spells. -/
def version4? (host : List Char) : Option Nat :=
  ((labels host).mapM addressNumber?).bind Address.ofNumbers?

/-- An address as four octets between dots. -/
def version4Chars (n : Nat) : List Char :=
  Address.octetsChars (Address.octetsOf n)

end TelemetryControl.Url
