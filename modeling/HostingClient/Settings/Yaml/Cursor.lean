/-! # Places in a YAML text

Indentation gives a YAML text its structure, so a place in it is known by its line and column. A line ends at a
line feed, a carriage return, or both. Blanks are spaces and tabs; a comment starts with a number sign. -/

namespace HostingClient.Yaml

/-- Whether a character is a blank within a line. -/
def isSpace (c : Char) : Bool := c = ' ' || c = '\t'

/-- Whether a character ends a line. -/
def isBreak (c : Char) : Bool := c = '\n' || c = '\r'

/-- Whether a character is a sign of values in brackets. -/
def isSign (c : Char) : Bool := [',', '[', ']', '\x7b', '\x7d'].contains c

/-- Whether a line ends here. -/
def isLineEnd (s : List Char) : Bool := s.head?.all isBreak

/-- Whether a word ends here. -/
def isGap (s : List Char) : Bool := s.head?.all fun c => isSpace c || isBreak c

/-- Whether a mark of a document stands here: three times the same character. -/
def isMark (c : Char) (s : List Char) : Bool := s.take 3 = [c, c, c] && isGap (s.drop 3)

/-- A place in a text. -/
structure Cursor where
  /-- The text from here on. -/
  rest : List Char
  line : Nat
  column : Nat
  /-- The number of characters in front. -/
  index : Nat
  /-- Whether only blanks stand in front on the line. -/
  fresh : Bool
deriving DecidableEq, Repr

namespace Cursor

/-- The start of a text. -/
def start (s : List Char) : Cursor := ⟨s, 0, 0, 0, true⟩

/-- The place behind `n` blanks. -/
def skipBlanks (n : Nat) (c : Cursor) : Cursor :=
  { c with rest := c.rest.drop n, column := c.column + n, index := c.index + n }

/-- The place behind `n` characters of a word. -/
def skip (n : Nat) (c : Cursor) : Cursor := { c.skipBlanks n with fresh := false }

/-- The place behind a line break. -/
def skipBreak (c : Cursor) : Cursor :=
  match c.rest with
  | '\r' :: '\n' :: s => ⟨s, c.line + 1, 0, c.index + 2, true⟩
  | _ :: s => ⟨s, c.line + 1, 0, c.index + 1, true⟩
  | [] => c

/-- The place behind a comment. -/
def skipComment (c : Cursor) : Cursor := c.skip (c.rest.takeWhile fun d => !isBreak d).length

/-- The blanks at a place, and the place behind them and a comment, which must stand after a blank. -/
def skipGap (c : Cursor) : Option (List Char × Cursor) :=
  let blanks := c.rest.takeWhile isSpace
  let d := c.skipBlanks blanks.length
  if d.rest.head? = some '#' then if blanks.isEmpty then none else some (blanks, d.skipComment)
  else some (blanks, d)

/-- The place behind blanks and a comment if the line ends there. -/
def skipLine (c : Cursor) : Option Cursor :=
  match c.skipGap with
  | some (_, d) => if isLineEnd d.rest then some d else none
  | none => none

/-- The place of the next token, and whether a line break stands in front of it. Tabs do not indent: before column
`indent` a line may start with one only if the line is empty. -/
def skipFree (indent : Int) : Nat → Cursor → Option (Bool × Cursor)
  | 0, _ => none
  | fuel + 1, c =>
    match c.rest with
    | [] => some (false, c)
    | d :: _ =>
      if isBreak d then (skipFree indent fuel c.skipBreak).map fun (_, e) => (true, e)
      else if d = '#' then skipFree indent fuel c.skipComment
      else if d = '\t' ∧ c.fresh ∧ c.column < indent then
        match c.skipLine with
        | some e => skipFree indent fuel e
        | none => none
      else if isSpace d then skipFree indent fuel (c.skipBlanks 1)
      else some (false, c)

/-- The place behind spaces, comments and line breaks, but no tabs. -/
def skipUntabbed : Nat → Cursor → Cursor
  | 0, c => c
  | fuel + 1, c =>
    match c.rest with
    | [] => c
    | d :: _ =>
      if isBreak d then skipUntabbed fuel c.skipBreak
      else if d = '#' then skipUntabbed fuel c.skipComment
      else if d = ' ' then skipUntabbed fuel (c.skipBlanks 1)
      else c

end Cursor

end HostingClient.Yaml
