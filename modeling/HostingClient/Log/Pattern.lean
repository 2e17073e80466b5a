import HostingClient.Number.Digit
import HostingClient.Text.Alphanumeric
import HostingClient.Text.Blank

/-! # Patterns of values

A filter can ask that the value of a field matches a regular expression. Here it is told which expressions can be
used. An expression deals with Unicode characters or, if its flags say so, with ASCII characters. There are no tables
of Unicode properties: what needs one, such as the class of all digits, the end of a word, or characters in any case,
can be used in ASCII only. -/

namespace HostingClient.LogPattern

/-! ### Flags -/

/-- How a part of an expression is read. -/
structure Mode where
  /-- Whether it deals with Unicode characters. -/
  unicode : Bool
  /-- Whether letters stand for both cases. -/
  anyCase : Bool
  /-- Whether blanks and comments are passed over. -/
  spaced : Bool
deriving DecidableEq, Repr

namespace Mode

/-- How an expression is read at its start. -/
def start : Mode := ⟨true, false, false⟩

/-- Whether a character needs a table of cases. -/
def folds (m : Mode) : Bool := m.unicode && m.anyCase

/-- Drops blanks and comments, which end with their line. -/
def skipComment : Bool → List Char → List Char
  | _, [] => []
  | true, c :: s => skipComment (c != '\n') s
  | false, c :: s => if Text.isBlank c then skipComment false s else if c = '#' then skipComment true s else c :: s

/-- Drops blanks and comments where they are passed over. -/
def skip (m : Mode) (s : List Char) : List Char := if m.spaced then skipComment false s else s

/-- The value of a flag after some flags are set and others are cleared. -/
def flag (set clear : List Char) (c : Char) (value : Bool) : Bool :=
  set.contains c || (value && !(clear.contains c))

/-- Reads flags up to the end of a group or the colon before its content. No flag comes twice, and flags follow the
sign that clears them. -/
def flags (m : Mode) (s : List Char) : Option (List Char × Mode × List Char) :=
  let word := s.takeWhile fun c => c != ':' && c != ')'
  let rest := s.drop word.length
  let known := word.all fun c => ['i', 'm', 's', 'U', 'u', 'R', 'x', '-'].contains c
  if rest.isEmpty || !known || word.getLast? = some '-' || !(decide word.Nodup) then none
  else
    let set := word.takeWhile (· != '-')
    let clear := word.dropWhile (· != '-')
    some (word, ⟨flag set clear 'u' m.unicode, flag set clear 'i' m.anyCase, flag set clear 'x' m.spaced⟩, rest)

end Mode

/-! ### Characters -/

/-- What an escape stands for. -/
inductive Escape where
  /-- A character; `byte` if it is given as a byte. -/
  | char (c : Char) (byte : Bool)
  /-- A class of digits, blanks or letters. -/
  | kind
  /-- The start or the end of a word, or its lack. -/
  | boundary
  /-- The start or the end of the text. -/
  | place
deriving DecidableEq, Repr

/-- Reads `n` hexadecimal digits. -/
def hexDigits (m : Mode) : Nat → List Char → Option (List Char × List Char)
  | 0, s => some ([], s)
  | n + 1, s =>
    match m.skip s with
    | c :: rest =>
      if Number.isDigitOf 16 c then (hexDigits m n rest).map fun (ds, rest) => (c :: ds, rest) else none
    | [] => none

/-- Reads an escape after its backslash. Letters and digits without a meaning are refused. -/
def readEscape (m : Mode) : List Char → Option (Escape × List Char)
  | [] => none
  | c :: s =>
    let hex (n : Nat) (byte : Bool) : Option (Escape × List Char) := do
      let (ds, rest) ← hexDigits m n s
      let d ← Number.charOf? ds
      some (.char d byte, rest)
    match c with
    | 'x' => hex 2 true
    | 'u' => hex 4 false
    | 'U' => hex 8 false
    | 'd' | 's' | 'w' => some (.kind, s)
    | 'b' | 'B' | '<' | '>' => some (.boundary, s)
    | 'A' | 'z' => some (.place, s)
    | 'a' => some (.char '\x07' false, s)
    | 'f' => some (.char '\x0C' false, s)
    | 't' => some (.char '\t' false, s)
    | 'n' => some (.char '\n' false, s)
    | 'r' => some (.char '\r' false, s)
    | 'v' => some (.char '\x0B' false, s)
    | _ => if c.isAlphanum || '\x7f' < c then none else some (.char c false, s)

/-- Whether an escape can be used outside classes. -/
def Escape.usable (m : Mode) : Escape → Bool
  | char c byte => if m.unicode then !m.anyCase else !(byte && '\x7f' < c)
  | kind | boundary => !m.unicode
  | place => true

/-! ### Classes -/

/-- The names of the classes of ASCII characters. -/
def asciiNames : List String :=
  ["alnum", "alpha", "ascii", "blank", "cntrl", "digit", "graph", "lower", "print", "punct", "space", "upper", "word",
    "xdigit"]

/-- Reads the name of a class after its bracket; whether the class is negated. -/
def readName : List Char → Option (Bool × List Char)
  | ':' :: s =>
    let (negated, s) := match s with
      | '^' :: s => (true, s)
      | s => (false, s)
    let name := s.takeWhile (· != ':')
    match s.drop name.length with
    | ':' :: ']' :: rest => if asciiNames.contains (String.ofList name) then some (negated, rest) else none
    | _ => none
  | _ => none

/-- Drops the hyphens at the start of a class. -/
def skipHyphens (m : Mode) : Nat → List Char → List Char
  | fuel + 1, '-' :: s => skipHyphens m fuel (m.skip s)
  | _, s => s

/-- Reads the start of a class after its bracket: a negation, and hyphens or a bracket that stand for themselves. In
ASCII no class is negated. -/
def openClass (m : Mode) (s : List Char) : Option (List Char) :=
  let s := m.skip s
  let negated := s.head? = some '^'
  let s := if negated then m.skip (s.drop 1) else s
  let rest := match s with
    | ']' :: r => m.skip r
    | s => skipHyphens m s.length s
  if rest.isEmpty || (negated && !m.unicode) || (m.folds && rest.length < s.length) then none else some rest

/-- Reads a character of a class; `none` inside if it is a class itself. -/
def readMember (m : Mode) : List Char → Option (Option Char × List Char)
  | [] => none
  | '\\' :: s =>
    match readEscape m s with
    | some (.char c byte, rest) => if !m.unicode && byte && '\x7f' < c then none else some (some c, rest)
    | some (.kind, rest) => if m.unicode then none else some (none, rest)
    | _ => none
  | c :: s => some (some c, s)

/-- Whether a character can stand in a class. -/
def isMember (m : Mode) (c : Char) : Bool := if m.unicode then !m.anyCase else c ≤ '\x7f'

/-- Reads a character, a range, or a class inside a class. -/
def readRange (m : Mode) (s : List Char) : Option (List Char) := do
  let (a, rest) ← readMember m s
  let rest := m.skip rest
  let single := if a.all (isMember m) then some rest else none
  match rest with
  | [] => none
  | '-' :: after =>
    let after := m.skip after
    if after.head? = some ']' ∨ after.head? = some '-' then single
    else do
      let (b, rest) ← readMember m after
      match a, b with
      | some a, some b => if isMember m a && isMember m b && a ≤ b then some rest else none
      | _, _ => none
  | _ => single

/-- Reads a class up to the bracket that closes it; `depth` classes are open inside it. -/
def readClass (m : Mode) : Nat → Nat → List Char → Option (List Char)
  | 0, _, _ => none
  | fuel + 1, depth, s =>
    match m.skip s, depth with
    | ']' :: rest, 0 => some rest
    | ']' :: rest, depth + 1 => readClass m fuel depth rest
    | '[' :: rest, depth =>
      match readName rest with
      | some (negated, rest) => if m.folds || (negated && !m.unicode) then none else readClass m fuel depth rest
      | none =>
        match openClass m rest with
        | some rest => readClass m fuel (depth + 1) rest
        | none => none
    | '&' :: '&' :: rest, depth | '-' :: '-' :: rest, depth | '~' :: '~' :: rest, depth => readClass m fuel depth rest
    | s, depth =>
      match readRange m s with
      | some rest => readClass m fuel depth rest
      | none => none

/-! ### Groups -/

/-- What stands behind an opening parenthesis. -/
inductive Group where
  /-- Flags for what follows. -/
  | set (m : Mode)
  /-- The start of a group, which may have a name. -/
  | open (m : Mode) (name : List Char)
deriving DecidableEq, Repr

/-- Reads the name of a group and the sign behind it. -/
def readGroupName (s : List Char) : Option (List Char × List Char) :=
  let name := s.takeWhile (· != '>')
  let isNameChar (c : Char) : Bool := Text.isAlphanumeric c || ['_', '.', '[', ']'].contains c
  match name, s.drop name.length with
  | c :: _, _ :: rest =>
    if (c = '_' || (Text.isAlphanumeric c && !c.isDigit)) && name.all isNameChar then some (name, rest) else none
  | _, _ => none

/-- Reads the start of a group after its parenthesis. What looks ahead or back is refused. -/
def readGroup (m : Mode) (s : List Char) : Option (Group × List Char) :=
  match m.skip s with
  | '?' :: 'P' :: '<' :: s => (readGroupName s).map fun (name, rest) => (.open m name, rest)
  | '?' :: '<' :: s => (readGroupName s).map fun (name, rest) => (.open m name, rest)
  | '?' :: s =>
    match m.flags s with
    | some (_, n, ':' :: rest) => some (.open n [], rest)
    | some (_ :: _, n, ')' :: rest) => some (.set n, rest)
    | _ => none
  | s => some (.open m [], s)

/-! ### Expressions -/

/-- What is known at a place in an expression. -/
structure Place where
  mode : Mode
  /-- How the text around each open group is read, the innermost first. -/
  outer : List Mode
  /-- Whether what stands in front can be repeated. -/
  repeatable : Bool
  /-- The names of groups so far. -/
  names : List (List Char)
deriving DecidableEq, Repr

/-- At most this many groups are inside each other. -/
def greatestDepth : Nat := 250

/-- Whether the rest of an expression can be used. Braces for a number of repetitions do not occur in a filter. -/
def check : Nat → Place → List Char → Bool
  | 0, _, _ => false
  | fuel + 1, p, s =>
    let item (ok : Bool) (rest : List Char) : Bool := ok && check fuel { p with repeatable := true } rest
    match p.mode.skip s with
    | [] => p.outer.isEmpty
    | '(' :: rest =>
      match readGroup p.mode rest with
      | some (.set m, rest) => check fuel { p with mode := m, repeatable := false } rest
      | some (.open m name, rest) =>
        p.outer.length < greatestDepth && !(p.names.contains name && !name.isEmpty) &&
          check fuel ⟨m, p.mode :: p.outer, false, name :: p.names⟩ rest
      | none => false
    | ')' :: rest =>
      match p.outer with
      | m :: outer => check fuel { p with mode := m, outer, repeatable := true } rest
      | [] => false
    | '|' :: rest => check fuel { p with repeatable := false } rest
    | '[' :: rest =>
      match openClass p.mode rest with
      | some rest =>
        match readClass p.mode (rest.length + 1) 0 rest with
        | some rest => item true rest
        | none => false
      | none => false
    | '\x7b' :: _ => false
    | '\\' :: rest =>
      match readEscape p.mode rest with
      | some (e, rest) => item (e.usable p.mode) rest
      | none => false
    | '.' :: rest => item p.mode.unicode rest
    | '^' :: rest | '$' :: rest => item true rest
    | c :: rest =>
      if c = '?' ∨ c = '*' ∨ c = '+' then item p.repeatable (if rest.head? = some '?' then rest.drop 1 else rest)
      else item (!p.mode.folds) rest

/-- Whether an expression can be used. -/
def isUsable (s : List Char) : Bool := check (s.length + 1) ⟨.start, [], false, []⟩ s

end HostingClient.LogPattern
