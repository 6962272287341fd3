import LiveLesson.Text.Percent
import LiveLesson.Url.Domain
import LiveLesson.Url.Error
import LiveLesson.Url.Ipv4
import LiveLesson.Url.Ipv6

/-!
Hosts of addresses. The schemes of the web have domain names, which are decoded and brought to
ASCII, and numbers in them are addresses; every other scheme takes a name as it stands, only
encoded.
-/

namespace LiveLesson.Url

open Text

inductive Host where
  /-- ASCII text; empty when there is no host. -/
  | name (text : String)
  | ipv4 (address : Nat)
  | ipv6 (groups : List Nat)
  deriving DecidableEq, Repr

namespace Host

def absent : Host := .name ""

def toText : Host → String
  | .name text => text
  | .ipv4 address => Ipv4.toText address
  | .ipv6 groups => "[" ++ Ipv6.toText groups ++ "]"

def bracketed (cs : List Char) : Except UrlError Host :=
  match cs.getLast? with
  | some ']' =>
    match Ipv6.parse? cs.dropLast with
    | some groups => .ok (.ipv6 groups)
    | none => .error .invalidIpv6
  | _ => .error .invalidIpv6

def isPlain (c : Char) : Bool := 0x20 ≤ c.toNat && c.toNat ≤ 0x7E

def isRefused (c : Char) : Bool := "\x00\t\n\r #/:<>?@[\\]^|".toList.contains c

/-- A host of a scheme with no rules of its own. -/
def verbatim : List Char → Except UrlError Host
  | '[' :: rest => bracketed rest
  | cs =>
    if cs.any isRefused then .error .invalidDomainCharacter
    else .ok (.name (String.ofList (Percent.encode isPlain cs)))

def domain : List Char → Except UrlError Host
  | '[' :: rest => bracketed rest
  | cs =>
    match Domain.ofBytes? (Percent.decode (Utf8.encode (String.ofList cs))) with
    | none => .error .invalidDomain
    | some [] => .error .emptyHost
    | some ascii =>
      if Ipv4.endsInNumber ascii then
        match Ipv4.parse? ascii with
        | some address => .ok (.ipv4 address)
        | none => .error .invalidIpv4
      else .ok (.name (String.ofList ascii))

end Host

end LiveLesson.Url
