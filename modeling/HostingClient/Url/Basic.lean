import HostingClient.Url.Host

/-! # Web addresses

An address as its parts: scheme, authority, path, query, fragment. Each part is kept in the form in which it is
written, with escapes for what may not stand in it. -/

namespace HostingClient

namespace Url

/-- A user and a password in front of a host. -/
structure UserInfo where
  name : List Char
  password : List Char
deriving DecidableEq, Repr, Inhabited

/-- Whose address it is. -/
structure Authority where
  user : UserInfo
  host : Host
  port : Option Nat
deriving DecidableEq, Repr, Inhabited

/-- A path: segments after slashes, or a plain text. -/
inductive UrlPath where
  | segments (segments : List (List Char))
  | plain (text : List Char)
deriving DecidableEq, Repr, Inhabited

/-- The kinds of schemes, which differ in how addresses are read. -/
inductive SchemeKind where
  /-- A scheme that the web knows. -/
  | web
  | file
  | other
deriving DecidableEq, Repr, Inhabited

/-- The schemes that the web knows, with the ports they use if none is given. -/
def defaultPorts : List (List Char × Nat) :=
  [(['h', 't', 't', 'p'], 80), (['h', 't', 't', 'p', 's'], 443), (['w', 's'], 80), (['w', 's', 's'], 443),
    (['f', 't', 'p'], 21)]

/-- The kind of a scheme. -/
def schemeKind (scheme : List Char) : SchemeKind :=
  if (defaultPorts.lookup scheme).isSome then .web else if scheme = ['f', 'i', 'l', 'e'] then .file else .other

namespace UserInfo

/-- Neither a user nor a password. -/
def none : UserInfo := ⟨[], []⟩

/-- The text in front of a host. -/
def text (u : UserInfo) : List Char :=
  if u.name.isEmpty && u.password.isEmpty then []
  else if u.password.isEmpty then u.name ++ ['@']
  else u.name ++ ':' :: (u.password ++ ['@'])

end UserInfo

namespace Authority

/-- The text of an authority. -/
def text (a : Authority) : List Char :=
  a.user.text ++ a.host.text ++ match a.port with
    | some n => ':' :: Number.digitsOf n
    | none => []

end Authority

namespace UrlPath

/-- The text of a path. -/
def text : UrlPath → List Char
  | segments ss => ss.flatMap ('/' :: ·)
  | plain s => s

end UrlPath

end Url

/-- A web address. -/
structure Url where
  scheme : List Char
  authority : Option Url.Authority
  path : Url.UrlPath
  query : Option (List Char)
  fragment : Option (List Char)
deriving DecidableEq, Repr, Inhabited

namespace Url

/-- The text of an address up to the path. A path that starts with two slashes is told from an authority by a dot. -/
def origin (u : Url) : List Char :=
  let scheme := u.scheme ++ [':']
  match u.authority, u.path with
  | some a, _ => scheme ++ '/' :: '/' :: a.text
  | none, .segments ([] :: _ :: _) => scheme ++ ['/', '.']
  | none, _ => if schemeKind u.scheme = .file then scheme ++ ['/', '/'] else scheme

/-- The text of an address without its fragment. -/
def resource (u : Url) : List Char :=
  u.origin ++ u.path.text ++ match u.query with
    | some q => '?' :: q
    | none => []

/-- The text of an address. -/
def text (u : Url) : String :=
  String.ofList (u.resource ++ match u.fragment with
    | some f => '#' :: f
    | none => [])

/-- Whether an address names a host. -/
def hasHost (u : Url) : Bool :=
  match u.authority with
  | some a => a.host ≠ .name []
  | none => false

/-- Form data: names and values. -/
def formText (pairs : List (List Char × List Char)) : List Char :=
  ['&'].intercalate (pairs.map fun p => Codec.Percent.form p.1 ++ '=' :: Codec.Percent.form p.2)

/-- Puts names and values behind those that the query has. -/
def addQuery (u : Url) (pairs : List (List Char × List Char)) : Url :=
  if pairs.isEmpty then u
  else match u.query with
    | none | some [] => { u with query := some (formText pairs) }
    | some q => { u with query := some (q ++ '&' :: formText pairs) }

end Url

end HostingClient
