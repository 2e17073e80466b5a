import HostingClient.Text.Blank
import HostingClient.Url.Basic

/-! # Reading web addresses

Addresses are read as the web does it. Blanks around the text and line breaks in it do not count. The fragment
and the query are split off first, since nothing before them may hold their signs; then the scheme decides what
stands between the slashes. Dots as path segments are resolved. -/

namespace HostingClient.Url

open Codec

/-! ### Escapes -/

/-- Whether a character stands for itself in an address, if its part does not say otherwise. -/
def isPlain (c : Char) : Bool := ' ' < c && c < '\x7f'

/-- Characters that a fragment does not escape. -/
def keepsInFragment (c : Char) : Bool := isPlain c && !(['"', '<', '>', '\x60'].contains c)

/-- Characters that a query does not escape. -/
def keepsInQuery (kind : SchemeKind) (c : Char) : Bool :=
  isPlain c && !(['"', '#', '<', '>'].contains c) && !(kind ≠ .other && c = '\'')

/-- Characters that a path does not escape. -/
def keepsInPath (c : Char) : Bool := keepsInFragment c && !(['#', '?', '\x7b', '\x7d'].contains c)

/-- Characters that a user or a password does not escape. -/
def keepsInUser (c : Char) : Bool :=
  keepsInPath c && !(['/', ':', ';', '=', '@', '[', '\\', ']', '^', '|'].contains c)

/-! ### Paths -/

/-- Whether a character ends a segment. -/
def isSlash (kind : SchemeKind) (c : Char) : Bool := c = '/' || (kind ≠ .other && c = '\\')

/-- The texts between slashes. -/
def splitSlashes (kind : SchemeKind) : List Char → List (List Char)
  | [] => [[]]
  | c :: s =>
    if isSlash kind c then [] :: splitSlashes kind s
    else match splitSlashes kind s with
      | p :: ps => (c :: p) :: ps
      | [] => [[c]]

/-- The dots that a segment stands for, if it is made of dots, each of which may be escaped. -/
def dots : List Char → Option Nat
  | [] => some 0
  | '.' :: s => (dots s).map (· + 1)
  | '%' :: '2' :: 'e' :: s | '%' :: '2' :: 'E' :: s => (dots s).map (· + 1)
  | _ => none

/-- Puts segments behind others. One dot stands for nothing, two dots take the last segment away; at the end of a
path an empty segment stands in their place. -/
def resolve (done : List (List Char)) : List (List Char) → List (List Char)
  | [] => done
  | s :: rest =>
    let last : List (List Char) := if rest.isEmpty then [[]] else []
    if dots s = some 1 then resolve (done ++ last) rest
    else if dots s = some 2 then resolve (done.dropLast ++ last) rest
    else resolve (done ++ [Percent.encode keepsInPath s]) rest

/-- The segments of a path without its first slash. -/
def readSegments (kind : SchemeKind) (s : List Char) : List (List Char) := resolve [] (splitSlashes kind s)

/-- A path that follows an authority. With a scheme of the web it is never empty. -/
def readPath (kind : SchemeKind) : List Char → UrlPath
  | [] => .segments (if kind = .other then [] else [[]])
  | c :: s => .segments (readSegments kind (if isSlash kind c then s else c :: s))

/-! ### Authorities -/

/-- Splits at the last `@`, if there is one. -/
def splitUser (s : List Char) : Option (List Char) × List Char :=
  let host := (s.reverse.takeWhile (· != '@')).reverse
  if host.length = s.length then (none, s) else (some (s.take (s.length - host.length - 1)), host)

/-- A user and a password, divided by the first colon. -/
def readUser (s : List Char) : UserInfo :=
  let name := s.takeWhile (· != ':')
  ⟨Percent.encode keepsInUser name, Percent.encode keepsInUser (s.drop (name.length + 1))⟩

/-- Splits at the first colon outside brackets. -/
def splitPort (bracketed : Bool) : List Char → List Char × Option (List Char)
  | [] => ([], none)
  | c :: s =>
    if c = ':' ∧ !bracketed then ([], some s)
    else
      let (host, port) := splitPort (c = '[' || (bracketed && c != ']')) s
      (c :: host, port)

/-- Reads a port, which may be missing, and what follows it. -/
def readPort (scheme : List Char) (s : List Char) : Except Fault (Option Nat × List Char) :=
  let ds := s.takeWhile Char.isDigit
  let n := (ofDigits? 10 ds).getD 0
  match s.drop ds.length with
  | [] => if 65535 < n then .error .port else .ok (port ds n, [])
  | '\\' :: rest => if 65535 < n then .error .port else .ok (port ds n, '\\' :: rest)
  | _ => .error .port
where
  /-- The port, if it is not the one that the scheme uses anyway. -/
  port (ds : List Char) (n : Nat) : Option Nat :=
    if ds.isEmpty ∨ defaultPorts.lookup scheme = some n then none else some n

/-- Reads a host. On the web it is never empty. -/
def readHost (kind : SchemeKind) (s : List Char) : Except Fault Host :=
  if kind ≠ .web then Host.readOther s else if s.isEmpty then .error .emptyHost else Host.readWeb s

/-- Reads the port of a host, if there is one, and what follows it. Without a host there is no port. -/
def readHostPort (scheme : List Char) (host : Host) : Option (List Char) → Except Fault (Option Nat × List Char)
  | none => .ok (none, [])
  | some s => if host = .name [] then .error .emptyHost else readPort scheme s

/-- Reads an authority. `followed` tells whether anything comes after it. What a port leaves is returned. -/
def readAuthority (scheme : List Char) (kind : SchemeKind) (followed : Bool) (s : List Char) :
    Except Fault (Authority × List Char) :=
  let (user, s) := splitUser s
  let (host, port) := splitPort false s
  if user = some [] ∧ s.isEmpty ∧ followed then .error .emptyHost
  else do
    let info := match user with
      | some u => readUser u
      | none => .none
    let host ← readHost kind host
    let (port, rest) ← readHostPort scheme host port
    if host = .name [] ∧ info ≠ .none then .error .emptyHost else .ok (⟨info, host, port⟩, rest)

/-- Reads what follows two slashes: an authority and a path. -/
def readHierarchy (scheme : List Char) (kind : SchemeKind) (followed : Bool) (s : List Char) :
    Except Fault (Option Authority × UrlPath) := do
  let authority := s.takeWhile fun c => !isSlash kind c
  let path := s.drop authority.length
  let (a, rest) ← readAuthority scheme kind (followed || !path.isEmpty) authority
  .ok (some a, readPath kind (if rest.isEmpty then path else '/' :: (rest ++ path)))

/-- The path of a file, without empty segments at its start. -/
def filePath (s : List Char) : UrlPath :=
  match (readSegments .file s).dropWhile List.isEmpty with
  | [] => .segments [[]]
  | ss => .segments ss

/-- Whether a text names a drive of a disk. -/
def isDrive : List Char → Bool
  | [c, d] => c.isAlpha && (d = ':' || d = '|')
  | _ => false

/-- Reads what follows the scheme of a file. The local host counts as none, and a drive belongs to the path. -/
def readFile (s : List Char) : Except Fault (Option Authority × UrlPath) :=
  match s with
  | a :: b :: rest =>
    if isSlash .file a ∧ isSlash .file b then do
      let host := rest.takeWhile fun c => !isSlash .file c
      if isDrive host then .ok (none, filePath rest)
      else
        let path := filePath ((rest.drop host.length).drop 1)
        if host.isEmpty then .ok (none, path)
        else
          match ← Host.readWeb host with
          | .name ['l', 'o', 'c', 'a', 'l', 'h', 'o', 's', 't'] => .ok (none, path)
          | h => .ok (some ⟨.none, h, none⟩, path)
    else .ok (none, filePath (if isSlash .file a then b :: rest else s))
  | [a] => .ok (none, filePath (if isSlash .file a then [] else [a]))
  | [] => .ok (none, filePath [])

/-! ### Addresses -/

/-- Drops control characters and blanks at both ends. -/
def trimControls (s : List Char) : List Char := Text.trimEndBy (· ≤ ' ') (s.dropWhile (· ≤ ' '))

/-- Drops tabs and line breaks. -/
def dropBreaks (s : List Char) : List Char := s.filter fun c => c != '\t' && c != '\n' && c != '\r'

/-- Whether a character may stand in a scheme after its first letter. -/
def isSchemeChar (c : Char) : Bool := c.isAlphanum || c = '+' || c = '-' || c = '.'

/-- Splits off the scheme, in lower case. It starts with a letter and ends at a colon. -/
def splitScheme (s : List Char) : Option (List Char × List Char) :=
  let scheme := s.takeWhile isSchemeChar
  match s.drop scheme.length with
  | c :: rest => if c = ':' ∧ scheme.head?.any Char.isAlpha then some (scheme.map Char.toLower, rest) else none
  | [] => none

/-- Splits at the first sign; what follows it, if it is there. -/
def splitAt (sign : Char) (s : List Char) : List Char × Option (List Char) :=
  let before := s.takeWhile (· != sign)
  (before, if before.length = s.length then none else some (s.drop (before.length + 1)))

/-- Reads what stands between the scheme and the query. -/
def readMiddle (scheme : List Char) (kind : SchemeKind) (followed : Bool) (s : List Char) :
    Except Fault (Option Authority × UrlPath) :=
  match kind with
  | .web => readHierarchy scheme kind followed (s.dropWhile (isSlash kind))
  | .file => readFile s
  | .other =>
    match s with
    | '/' :: '/' :: s => readHierarchy scheme kind followed s
    | '/' :: s => .ok (none, .segments (readSegments kind s))
    | s => .ok (none, .plain (Percent.encode (fun c => ' ' ≤ c && c < '\x7f') s))

/-- Reads what follows the scheme. -/
def readRest (scheme rest : List Char) : Except Fault Url := do
  let kind := schemeKind scheme
  let (rest, fragment) := splitAt '#' rest
  let (rest, query) := splitAt '?' rest
  let (authority, path) ← readMiddle scheme kind (fragment.isSome || query.isSome) rest
  .ok ⟨scheme, authority, path, query.map (Percent.encode (keepsInQuery kind)),
    fragment.map (Percent.encode keepsInFragment)⟩

/-- Reads an address. -/
def read (text : String) : Except Fault Url :=
  match splitScheme (dropBreaks (trimControls text.toList)) with
  | none => .error .relative
  | some (scheme, rest) => readRest scheme rest

end HostingClient.Url
