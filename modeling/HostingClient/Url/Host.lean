import HostingClient.Url.Address
import HostingClient.Url.Name
import HostingClient.Codec.Percent

/-! # Hosts

A host is a name or an address. Names of the schemes that the web knows are mapped to lower-case ASCII first; a
name that ends in a number must be an address. Names of other schemes are kept as they are. -/

namespace HostingClient.Url

/-- Why an address cannot be read. -/
inductive Fault where
  | relative
  | emptyHost
  | port
  | ipv4
  | ipv6
  | internationalName
  | nameCharacter
deriving DecidableEq, Repr, Inhabited

/-- The wording of a fault. -/
def Fault.message : Fault → String
  | relative => "relative URL without a base"
  | emptyHost => "empty host"
  | port => "invalid port number"
  | ipv4 => "invalid IPv4 address"
  | ipv6 => "invalid IPv6 address"
  | internationalName => "invalid international domain name"
  | nameCharacter => "invalid domain character"

/-- A host. -/
inductive Host where
  | name (text : List Char)
  | ipv4 (address : Nat)
  | ipv6 (groups : List Nat)
deriving DecidableEq, Repr, Inhabited

namespace Host

/-- The text of a host. -/
def text : Host → List Char
  | name s => s
  | ipv4 n => Ipv4.text n
  | ipv6 groups => '[' :: (Ipv6.text groups ++ [']'])

/-- Reads what stands in brackets. -/
def readBracketed (s : List Char) : Except Fault Host :=
  if s.getLast? = some ']' then
    match Ipv6.read s.dropLast with
    | some groups => .ok (.ipv6 groups)
    | none => .error .ipv6
  else .error .ipv6

/-- Reads a host of a scheme that the web knows. -/
def readWeb : List Char → Except Fault Host
  | '[' :: s => readBracketed s
  | s =>
    match Text.Utf8.decode? (Codec.Percent.decode s) >>= Name.ascii? with
    | none => .error .internationalName
    | some [] => .error .emptyHost
    | some n =>
      if Ipv4.isMeant n then
        match Ipv4.read n with
        | some address => .ok (.ipv4 address)
        | none => .error .ipv4
      else .ok (.name n)

/-- Whether a character may not stand in a name of another scheme. -/
def isForbiddenElsewhere (c : Char) : Bool :=
  ['\x00', '\t', '\n', '\r', ' ', '#', '/', ':', '<', '>', '?', '@', '[', '\\', ']', '^', '|'].contains c

/-- Reads a host of another scheme. It may be empty. -/
def readOther : List Char → Except Fault Host
  | '[' :: s => readBracketed s
  | s =>
    if s.any isForbiddenElsewhere then .error .nameCharacter
    else .ok (.name (Codec.Percent.encode (fun c => ' ' ≤ c ∧ c < '\x7f') s))

end Host

end HostingClient.Url
