import BidAdapter.Endpoint.Address
import BidAdapter.Endpoint.Domain.Name

/-!
# Hosts

`Host` : a name or an address; `Host.ofDomain` reads the host of a special scheme, whose name is put into lower case and
into ASCII, and which is an address where it ends in a number; `Host.ofOther` reads the host of any other scheme, whose
name stays as it is. `UrlError` : everything that is wrong with a URL.
-/

namespace BidAdapter.Endpoint

set_option autoImplicit false

/-! ## Errors -/

/-- Why a text is no URL. -/
inductive UrlError where
  /-- There is no scheme. -/
  | relative
  | emptyHost
  /-- A name that has no form in ASCII, or that holds a character which no name may hold. -/
  | domainName
  /-- A character that the host of a scheme without a host rule may not hold. -/
  | domainCharacter
  | port
  | ipv4
  | ipv6
deriving DecidableEq, Repr

def UrlError.message : UrlError → String
  | .relative => "relative URL without a base"
  | .emptyHost => "empty host"
  | .domainName => "invalid international domain name"
  | .domainCharacter => "invalid domain character"
  | .port => "invalid port number"
  | .ipv4 => "invalid IPv4 address"
  | .ipv6 => "invalid IPv6 address"

/-! ## Hosts -/

/-- What no host may hold under a scheme without a host rule. -/
def forbiddenInHost (c : Char) : Bool :=
  ['\x00', '\t', '\n', '\r', ' ', '#', '/', ':', '<', '>', '?', '@', '[', '\\', ']', '^', '|'].contains c

/-- The host of a URL. -/
inductive Host where
  | name (cs : List Char)
  | ipv4 (n : Nat)
  | ipv6 (pieces : List Nat)
deriving DecidableEq, Repr

namespace Host

/-- The text of a host. -/
def chars : Host → List Char
  | .name cs => cs
  | .ipv4 n => ipv4Chars n
  | .ipv6 pieces => '[' :: ipv6Chars pieces ++ [']']

/-- An address in brackets; the bracket that opens it has been read. -/
def ofBrackets (cs : List Char) : Except UrlError Host :=
  match cs.getLast?, ipv6? cs.dropLast with
  | some ']', some pieces => .ok (.ipv6 pieces)
  | _, _ => .error .ipv6

/-- The host of a special scheme. -/
def ofDomain : List Char → Except UrlError Host
  | '[' :: cs => ofBrackets cs
  | cs =>
    match (percentDecode cs).bind Domain.ascii? with
    | none => .error .domainName
    | some ascii =>
      if ascii.isEmpty then .error .emptyHost
      else if endsInNumber ascii then
        match ipv4? ascii with
        | some n => .ok (.ipv4 n)
        | none => .error .ipv4
      else .ok (.name ascii)

/-- The host of any other scheme. -/
def ofOther : List Char → Except UrlError Host
  | '[' :: cs => ofBrackets cs
  | cs => if cs.any forbiddenInHost then .error .domainCharacter else .ok (.name (percentEncode isControl cs))

end Host

end BidAdapter.Endpoint
