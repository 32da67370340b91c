/-
TelemetryControl.SocketAddress — addresses to listen on.

A socket address is a numeric address and a port. Of version 4 it is four
octets, a colon and the port; of version 6 the address stands between
brackets and may name a scope after a percent sign. What is written is the
shortest form of the same.
-/
import TelemetryControl.Address

namespace TelemetryControl

/-- An address with a port. -/
inductive SocketAddress where
  | version4 (octets : List Nat) (port : Nat)
  | version6 (pieces : List Nat) (scope : Nat) (port : Nat)
deriving DecidableEq, Repr

namespace SocketAddress

/-- A port: digits that spell a number of sixteen bits. -/
def port? (cs : List Char) : Option Nat :=
  if cs.isEmpty then none
  else (Address.numeral? 10 cs).bind (fun n => if n < Nat.pow 2 16 then some n else none)

/-- The scope after the percent sign of an address, zero if there is none. -/
def scope? (cs : List Char) : Option Nat :=
  match cs with
  | [] => some 0
  | '%' :: [] => none
  | '%' :: digits =>
    (Address.numeral? 10 digits).bind (fun n => if n < Nat.pow 2 32 then some n else none)
  | _ => none

/-- The socket address that a text spells. -/
def parse? (text : String) : Option SocketAddress :=
  match text.toList with
  | '[' :: rest =>
    let inner := rest.takeWhile (· != ']')
    match rest.drop inner.length with
    | ']' :: ':' :: digits =>
      let address := inner.takeWhile (· != '%')
      match Address.version6? address, scope? (inner.drop address.length), port? digits with
      | some pieces, some scope, some port => some (.version6 pieces scope port)
      | _, _, _ => none
    | _ => none
  | cs =>
    let host := cs.takeWhile (· != ':')
    match cs.drop host.length with
    | ':' :: digits =>
      match Address.octets? host, port? digits with
      | some octets, some port => some (.version4 octets port)
      | _, _ => none
    | _ => none

/-- The characters of an address of version 6; one that stands for an address of
version 4 shows its octets. -/
def addressChars (pieces : List Nat) : List Char :=
  match pieces with
  | [0, 0, 0, 0, 0, 0xFFFF, a, b] =>
    "::ffff:".toList ++ Address.octetsChars [a / 256, a % 256, b / 256, b % 256]
  | ps => Address.version6Chars ps

/-- The text of a socket address. -/
def text : SocketAddress → String
  | version4 octets port =>
    String.ofList (Address.octetsChars octets ++ ':' :: Nat.toDigits 10 port)
  | version6 pieces scope port =>
    String.ofList (['['] ++ addressChars pieces ++
      (if scope = 0 then [] else '%' :: Nat.toDigits 10 scope) ++ [']', ':'] ++
      Nat.toDigits 10 port)

end SocketAddress

end TelemetryControl
