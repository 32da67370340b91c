/-
TelemetryControl.Url.Host — the host part of a locator.

Where the scheme is a known one the host is a name or an address; a name in
capitals or with escapes is brought to its ASCII form, and one that ends in
a number has to be an address. Elsewhere a host is any text without the
characters that would end it. Every host is kept in its written form.
-/
import TelemetryControl.Text.Percent
import TelemetryControl.Url.Domain
import TelemetryControl.Url.Version4

namespace TelemetryControl.Url

/-- What is wrong with a text that is no locator. -/
inductive UrlFault where
  | noScheme
  | emptyHost
  | badPort
  | badVersion4
  | badVersion6
  | badName
  | badCharacter
deriving DecidableEq, Repr

/-- The wording of a fault. -/
def UrlFault.message : UrlFault → String
  | .noScheme => "relative URL without a base"
  | .emptyHost => "empty host"
  | .badPort => "invalid port number"
  | .badVersion4 => "invalid IPv4 address"
  | .badVersion6 => "invalid IPv6 address"
  | .badName => "invalid international domain name"
  | .badCharacter => "invalid domain character"

/-- Control characters, which every part escapes. -/
def isControl (c : Char) : Bool :=
  c.toNat < 0x20

/-- A version 6 address between brackets. -/
def bracketed? (cs : List Char) : Except UrlFault (List Char) :=
  let inner := (cs.drop 1).dropLast
  if cs.length < 2 || cs.getLast? != some ']' then .error .badVersion6
  else
    match Address.version6? inner with
    | some ps => .ok (['['] ++ Address.version6Chars ps ++ [']'])
    | none => .error .badVersion6

/-- The written form of a host under a known scheme. -/
def knownHost? (cs : List Char) : Except UrlFault (List Char) :=
  if cs.head? = some '[' then bracketed? cs
  else
    match Domain.ascii? (Text.Percent.decode (Text.octets (String.ofList cs))) with
    | none => .error .badName
    | some [] => .error .emptyHost
    | some name =>
      if endsInNumber name then
        match version4? name with
        | some n => .ok (version4Chars n)
        | none => .error .badVersion4
      else .ok name

/-- Characters that a host under an unknown scheme does not hold. -/
def endsOtherHost (c : Char) : Bool :=
  c.toNat = 0 || "\t\n\r #/:<>?@[\\]^|".toList.contains c

/-- The written form of a host under an unknown scheme. -/
def otherHost? (cs : List Char) : Except UrlFault (List Char) :=
  if cs.head? = some '[' then bracketed? cs
  else if cs.any endsOtherHost then .error .badCharacter
  else .ok (Text.Percent.encode isControl cs)

end TelemetryControl.Url
