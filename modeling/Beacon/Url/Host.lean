import Beacon.Url.Domain
import Beacon.Url.Ipv6
import Beacon.Url.Percent

/-!
# Hosts

The host of a URL is a domain, an IPv4 address or an IPv6 address in brackets. What is not in
brackets is percent-decoded and brought to the ASCII form of a domain; it is an address if it ends
in a number.
-/

namespace Beacon.Url

/-- Why a text is no address of a node. -/
inductive Error where
  | noScheme
  | emptyHost
  /-- The port is no number of 16 bits. -/
  | badPort
  /-- The host is no IPv4 address, but ends in a number. -/
  | badIpv4
  /-- The host is no IPv6 address, but starts with a bracket. -/
  | badIpv6
  | badDomain
  /-- The host of a scheme without domains holds a character that it may not hold. -/
  | badHost
  | unsupportedScheme (scheme : String)
deriving DecidableEq, Repr

/-- The text of an error. -/
def Error.message : Error → String
  | .noScheme => "relative URL without a base"
  | .emptyHost => "empty host"
  | .badPort => "invalid port number"
  | .badIpv4 => "invalid IPv4 address"
  | .badIpv6 => "invalid IPv6 address"
  | .badDomain => "invalid international domain name"
  | .badHost => "invalid domain character"
  | .unsupportedScheme scheme => "unsupported scheme \"" ++ scheme ++ "\""

/-- A host. -/
inductive Host where
  | domain (name : String)
  | ipv4 (address : Nat)
  | ipv6 (pieces : List Nat)
deriving DecidableEq, Repr

namespace Host

/-- The text of a host. -/
def write : Host → String
  | .domain name => name
  | .ipv4 address => Ipv4.write address
  | .ipv6 pieces => "[" ++ Ipv6.write pieces ++ "]"

/-- The host in brackets. -/
def bracketed (text : List Char) : Except Error Host :=
  match text.reverse with
  | ']' :: inner =>
    match Ipv6.parse? inner.reverse with
    | some pieces => .ok (.ipv6 pieces)
    | none => .error .badIpv6
  | _ => .error .badIpv6

/-- The host whose name is given in ASCII. -/
def ofName (name : List Char) : Except Error Host :=
  if name = [] then .error .emptyHost
  else if Ipv4.endsInNumber name then
    match Ipv4.parse? name with
    | some address => .ok (.ipv4 address)
    | none => .error .badIpv4
  else .ok (.domain (String.ofList name))

/-- The host written by a text. -/
def parse : List Char → Except Error Host
  | '[' :: rest => bracketed rest
  | text =>
    match Utf8.decode? (percentDecode (Utf8.encode (String.ofList text))) with
    | none => .error .badDomain
    | some decoded =>
      match Domain.ofText? decoded.toList with
      | some name => ofName name
      | none => .error .badDomain

/-- What is wrong with a host of a scheme without domains. -/
def checkOpaque : List Char → Except Error Unit
  | '[' :: rest => (bracketed rest).map fun _ => ()
  | text => if text.any Domain.forbidden.contains then .error .badHost else .ok ()

end Host

end Beacon.Url
