import HostingClient.Number.Digit

/-! # Texts and keys in TOML

A text stands in quotes, on one line or, in three quotes, on several. A backslash starts an escape, but not between
single quotes. A key is a list of words and texts on one line, with dots between them. -/

namespace HostingClient.Toml

/-! ### Blanks -/

/-- Whether a character is a blank within a line. -/
def isGap (c : Char) : Bool := c = ' ' || c = '\t'

/-- Drops blanks within a line. -/
def skipGaps (s : List Char) : List Char := s.dropWhile isGap

/-- Whether a character may not stand in a text or comment. -/
def isControl (c : Char) : Bool := (c < ' ' && c != '\t') || c = '\x7f'

/-- The rest after the end of a line, before which a comment may stand. -/
def endLine (s : List Char) : Option (List Char) :=
  let s := match skipGaps s with
    | '#' :: rest => rest.dropWhile fun c => !isControl c
    | rest => rest
  match s with
  | [] => some []
  | '\n' :: rest | '\r' :: '\n' :: rest => some rest
  | _ => none

/-- Drops blanks, line ends and comments. -/
def skipFree : Nat → List Char → Option (List Char)
  | 0, _ => none
  | fuel + 1, s =>
    match skipGaps s with
    | [] => some []
    | c :: rest =>
      if c = '#' ∨ c = '\n' ∨ c = '\r' then
        match endLine (c :: rest) with
        | some rest => skipFree fuel rest
        | none => none
      else some (c :: rest)

/-- Drops blanks and line ends. -/
def skipLines : List Char → List Char
  | '\r' :: '\n' :: s => skipLines s
  | c :: s => if isGap c || c = '\n' then skipLines s else c :: s
  | [] => []

/-! ### Texts -/

/-- The character of an escape of one letter. -/
def escaped? : Char → Option Char
  | 'b' => some '\x08'
  | 't' => some '\t'
  | 'n' => some '\n'
  | 'f' => some '\x0C'
  | 'r' => some '\r'
  | 'e' => some '\x1B'
  | '"' => some '"'
  | '\\' => some '\\'
  | _ => none

/-- The number of hexadecimal digits of an escape. -/
def escapeWidth : Char → Nat
  | 'x' => 2
  | 'u' => 4
  | 'U' => 8
  | _ => 0

/-- Reads an escape after its backslash. -/
def escape : List Char → Option (Char × List Char)
  | [] => none
  | k :: s =>
    match escaped? k, escapeWidth k with
    | some c, _ => some (c, s)
    | none, 0 => none
    | none, w => if s.length < w then none else (Number.charOf? (s.take w)).map fun c => (c, s.drop w)

/-- How a text is written. -/
structure Quoting where
  quote : Char
  escapes : Bool
  lines : Bool

/-- Reads a text after its opening quotes. The bound is at least the length of what is left. -/
def readQuoted (q : Quoting) : Nat → List Char → Option (List Char × List Char)
  | 0, _ => none
  | _ + 1, [] => none
  | fuel + 1, c :: s =>
    let next (d : Char) (s : List Char) := (readQuoted q fuel s).map fun (ds, rest) => (d :: ds, rest)
    if c = q.quote then
      if !q.lines then some ([], s)
      else match s with
        | a :: b :: rest =>
          if a = c ∧ b = c then
            let more := (rest.takeWhile (· == c)).take 2
            some (more, rest.drop more.length)
          else next c s
        | _ => none
    else if c = '\\' ∧ q.escapes then
      match skipGaps s with
      | '\n' :: rest | '\r' :: '\n' :: rest => if q.lines then readQuoted q fuel (skipLines rest) else none
      | _ =>
        match escape s with
        | some (d, rest) => next d rest
        | none => none
    else if c = '\n' ∨ (c = '\r' ∧ s.head? = some '\n') then if q.lines then next c s else none
    else if isControl c then none
    else next c s

/-- Reads a text, if one starts here. -/
def readText (lines : Bool) : List Char → Option (Option (List Char × List Char))
  | c :: s =>
    if c = '"' ∨ c = '\'' then
      let escapes := c = '"'
      match s with
      | a :: b :: rest =>
        if a = c ∧ b = c then
          if lines then
            let rest := match rest with
              | '\n' :: r | '\r' :: '\n' :: r => r
              | r => r
            some (readQuoted ⟨c, escapes, true⟩ (rest.length + 1) rest)
          else some none
        else some (readQuoted ⟨c, escapes, false⟩ (s.length + 1) s)
      | _ => some (readQuoted ⟨c, escapes, false⟩ (s.length + 1) s)
    else none
  | [] => none

/-! ### Keys -/

/-- Whether a character may stand in a key without quotes. -/
def isKeyChar (c : Char) : Bool := c.isAlphanum || c = '-' || c = '_'

/-- Reads one part of a key. -/
def readKeyPart (s : List Char) : Option (String × List Char) :=
  match s with
  | '"' :: '"' :: rest | '\'' :: '\'' :: rest => some ("", rest)
  | _ =>
    match readText false s with
    | some r => r.map fun (ds, rest) => (String.ofList ds, rest)
    | none =>
      let bare := s.takeWhile isKeyChar
      if bare.isEmpty then none else some (String.ofList bare, s.drop bare.length)

/-- Reads a key of at most `n` parts with dots between them. -/
def readParts : Nat → List Char → Option (List String × List Char)
  | 0, _ => none
  | n + 1, s => do
    let (k, rest) ← readKeyPart (skipGaps s)
    match skipGaps rest with
    | '.' :: rest =>
      let (ks, rest) ← readParts n rest
      some (k :: ks, rest)
    | rest => some ([k], rest)

/-- How deep tables and values may lie. -/
def greatestDepth : Nat := 80

/-- Reads a key. -/
def readKey (s : List Char) : Option (List String × List Char) := readParts greatestDepth s

end HostingClient.Toml
