import HostingClient.Settings.Yaml.Scalar
import HostingClient.Settings.Yaml.Tag

/-! # Tokens

A YAML text as a list of tokens. Indentation becomes tokens that open and close blocks. A key need not be marked:
only the colon after a word tells that the word was one. So the place in front of each word that could be a key is
kept as a candidate, and the token that marks the key is put there once the colon is found. -/

namespace HostingClient.Yaml

/-- A token. -/
inductive Token where
  | directive (d : Directive)
  | documentStart
  | documentEnd
  /-- The start of a list laid out by indentation. -/
  | blockList
  /-- The start of a table laid out by indentation. -/
  | blockTable
  | blockEnd
  | listStart
  | listEnd
  | tableStart
  | tableEnd
  /-- The dash in front of an item. -/
  | item
  | comma
  | key
  | value
  | alias (name : String)
  | anchor (name : String)
  | tag (t : Tag)
  | scalar (isPlain : Bool) (text : String)
deriving DecidableEq, Repr

/-- A column that lines are indented by. -/
structure Level where
  column : Nat
  /-- Whether a token closes the level; else it only holds the value of an item or a key. -/
  block : Bool
deriving DecidableEq, Repr

/-- A place where a key starts if a colon follows. -/
structure Candidate where
  /-- Whether only a key can stand there. -/
  required : Bool
  line : Nat
  column : Nat
  index : Nat
  /-- The number of tokens in front. -/
  place : Nat
deriving DecidableEq, Repr

/-- The tokens of the text in front of a place. -/
structure Lexer where
  cursor : Cursor
  tokens : List Token
  /-- Whether a key may start here. -/
  keyAllowed : Bool
  /-- The candidate inside the innermost brackets. -/
  candidate : Option Candidate
  /-- The candidates around open brackets, the innermost first. -/
  outer : List (Option Candidate)
  /-- The levels of indentation, the innermost first. -/
  levels : List Level
  /-- For each open list in brackets whether a single entry without braces is open in it. -/
  pairs : List Bool
  /-- Whether keys belong to a table whose start has a token already. -/
  braced : Bool
  /-- Where a colon ends a key in brackets although no blank follows it. -/
  adjacent : Nat
deriving DecidableEq, Repr

namespace Lexer

/-- The start of a text. -/
def start (s : List Char) : Lexer := ⟨.start s, [], true, none, [], [], [], false, 0⟩

/-- The number of open brackets. -/
def depth (l : Lexer) : Nat := l.outer.length

/-- The column of the innermost level. -/
def indent (l : Lexer) : Int :=
  match l.levels with
  | v :: _ => v.column
  | [] => -1

/-- Adds a token. -/
def push (t : Token) (l : Lexer) : Lexer := { l with tokens := l.tokens ++ [t] }

/-- Adds a token behind the first `n`. -/
def insert (n : Nat) (t : Token) (l : Lexer) : Lexer := { l with tokens := l.tokens.take n ++ t :: l.tokens.drop n }

/-! ### Levels of indentation -/

/-- Closes the levels beyond a column: the tokens for it, and the levels that stay. -/
def closed (column : Int) : List Level → List Token × List Level
  | [] => ([], [])
  | v :: vs =>
    if column < v.column then
      let (ts, rest) := closed column vs
      (if v.block then .blockEnd :: ts else ts, rest)
    else ([], v :: vs)

/-- Closes the levels beyond a column. Nothing in brackets closes a level. -/
def close (column : Int) (l : Lexer) : Lexer :=
  if l.outer.isEmpty then
    let (ts, levels) := closed column l.levels
    { l with tokens := l.tokens ++ ts, levels }
  else l

/-- Opens a block at a column, if it lies beyond the innermost level; its token comes behind the first `place`. -/
def openBlock (t : Token) (column place : Nat) (l : Lexer) : Lexer :=
  if !l.outer.isEmpty then l
  else
    let l := match l.levels with
      | v :: vs => if v.column ≤ column ∧ !v.block then { l with levels := vs } else l
      | [] => l
    if l.indent < (column : Int) then { l.insert place t with levels := ⟨column, true⟩ :: l.levels } else l

/-- Opens the level of a value, one column beyond its block. -/
def openValue (l : Lexer) : Lexer :=
  match l.levels with
  | v :: vs => if l.outer.isEmpty ∧ v.block then { l with levels := ⟨v.column + 1, false⟩ :: v :: vs } else l
  | [] => l

/-- Drops levels that only hold a value. -/
def dropValues (l : Lexer) : Lexer := { l with levels := l.levels.dropWhile fun v => !v.block }

/-! ### Candidates -/

/-- Notes that a key may start here. -/
def note (l : Lexer) : Lexer :=
  if l.keyAllowed then
    let c := l.cursor
    let required : Bool := l.outer.isEmpty && l.levels.head?.any fun v => v.block && v.column = c.column
    { l with candidate := some ⟨required, c.line, c.column, c.index, l.tokens.length⟩ }
  else l

/-- Gives up the candidate, unless only a key can stand there. -/
def giveUp (l : Lexer) : Option Lexer :=
  if l.candidate.any (·.required) then none else some { l with candidate := none }

/-- Gives up the candidate outside brackets if it is on another line, or more than 1024 characters away. -/
def expire (l : Lexer) : Option Lexer :=
  if l.outer.isEmpty ∧ l.candidate.any fun k => k.line < l.cursor.line || k.index + 1024 < l.cursor.index then l.giveUp
  else some l

/-- Tells whether keys may start from here on. -/
def allow (b : Bool) (l : Lexer) : Lexer := { l with keyAllowed := b }

/-! ### Steps in the text -/

/-- Goes to a place. -/
def goto (c : Cursor) (l : Lexer) : Lexer := { l with cursor := c }

/-- Goes on by some characters. -/
def skip (n : Nat) (l : Lexer) : Lexer := l.goto (l.cursor.skip n)

/-- Goes on to the next word on a line. -/
def skipGap (l : Lexer) : Option Lexer := l.cursor.skipGap.map fun (_, c) => l.goto c

/-- Goes on to the next token. Outside brackets a key may start on each line. -/
def skipFree (l : Lexer) : Option Lexer :=
  match l.cursor.skipFree l.indent (l.cursor.rest.length + 1) with
  | some (broken, c) => some (if broken && l.outer.isEmpty then (l.goto c).allow true else l.goto c)
  | none => none

/-! ### Brackets -/

/-- The end of an entry without braces, if one is open. -/
def endPair (l : Lexer) : Lexer :=
  match l.pairs with
  | true :: rest => { l.push .tableEnd with braced := false, pairs := false :: rest }
  | _ => l

/-- Reads an opening bracket. At most 255 are open at once. -/
def openBracket (isTable : Bool) (l : Lexer) : Option Lexer := do
  let l := l.note.openValue
  if l.depth = 255 then none
  let l := { l with candidate := none, outer := l.candidate :: l.outer, keyAllowed := true }
  let l ← (l.skip 1).skipGap
  if isTable then some ({ l with braced := true }.push .tableStart)
  else some ({ l with pairs := false :: l.pairs }.push .listStart)

/-- Reads a closing bracket. -/
def closeBracket (isTable : Bool) (l : Lexer) : Option Lexer := do
  let l ← l.giveUp
  let l := match l.outer with
    | k :: rest => { l with candidate := k, outer := rest, keyAllowed := false }
    | [] => l.allow false
  let l := if isTable then l else { l.endPair with pairs := l.pairs.drop 1 }
  let l ← (l.skip 1).skipGap
  let l := if l.outer.isEmpty then l else { l with adjacent := l.cursor.index }
  some (l.push (if isTable then .tableEnd else .listEnd))

/-- Reads a comma. -/
def comma (l : Lexer) : Option Lexer := do
  let l ← l.giveUp
  let l ← ((l.allow true).endPair.skip 1).skipGap
  some (l.push .comma)

/-! ### Items and entries -/

/-- Reads the dash of an item. -/
def item (l : Lexer) : Option Lexer := do
  if !l.outer.isEmpty ∨ !l.keyAllowed then none
  let column := l.cursor.column
  let l := (l.skip 1).openBlock .blockList column l.tokens.length
  let (blanks, c) ← l.cursor.skipGap
  if blanks.contains '\t' ∧ c.rest.head? = some '-' ∧ isGap (c.rest.drop 1) then none
  let l := l.goto c
  let l := if c.rest.head?.any fun d => isBreak d || isSign d then l.openValue else l
  let l ← l.giveUp
  some ((l.allow true).push .item)

/-- Reads a question mark, which marks a key of any kind. -/
def markedKey (l : Lexer) : Option Lexer := do
  let block := l.outer.isEmpty
  if block ∧ !l.keyAllowed then none
  let l := if block then l.openBlock .blockTable l.cursor.column l.tokens.length else { l with braced := true }
  let l ← l.giveUp
  let c := l.cursor.skip 1
  if c.rest.isEmpty ∨ c.rest.head? = some '\t' then none
  let c := c.skipUntabbed (c.rest.length + 1)
  if c.rest.head? = some '\t' then none
  some (((l.goto c).allow block).push .key)

/-- Whether what follows a colon may follow it: tabs alone may not stand in front of a word. -/
def colonGap (c : Cursor) : Option Cursor :=
  if c.rest.head? = some '\t' then
    match c.skipGap with
    | some (blanks, d) => if !(blanks.contains ' ') ∧ d.rest.head?.any isHandleChar then none else some d
    | none => none
  else some c

/-- Reads the colon of a value. If a candidate stands in front, it is the key. -/
def value (l : Lexer) : Option Lexer := do
  let here := l.cursor
  let single := !l.pairs.isEmpty && !l.braced
  let l := if single then { l with pairs := true :: l.pairs.drop 1 } else l
  let c ← colonGap (here.skip 1)
  let l := l.goto c
  match l.candidate with
  | some k =>
    let l := l.insert k.place .key
    if single ∧ k.line < here.line then none
    let l := if single then l.insert k.place .tableStart else l
    let l := (l.openBlock .blockTable k.column k.place).openValue
    some (({ l with candidate := none }.allow false).push .value)
  | none =>
    let l := if single then l.push .tableStart else l
    if l.outer.isEmpty then
      if !l.keyAllowed then none
      let l := (l.openBlock .blockTable here.column l.tokens.length).openValue
      some ((l.allow true).push .value)
    else some ((l.openValue.allow false).push .value)

/-! ### Words -/

/-- Reads the name of an anchor after its sign. -/
def anchor (toToken : String → Token) (l : Lexer) : Option Lexer :=
  let l := l.note.allow false
  let name := l.cursor.rest.tail.takeWhile isAnchorChar
  if name.isEmpty then none else some ((l.skip (name.length + 1)).push (toToken (String.ofList name)))

/-- Reads a tag. -/
def tag (l : Lexer) : Option Lexer := do
  let l := l.note.allow false
  let (t, c) ← readTag l.cursor
  if isGap c.rest ∨ (!l.outer.isEmpty ∧ c.rest.head?.any isSign) then some ((l.goto c).push (.tag t)) else none

/-- Reads a quoted scalar. On its last line only what can follow a key or a value may follow. -/
def quoted (quote : Char) (l : Lexer) : Option Lexer := do
  let l := l.note.allow false
  let (text, c) ← readQuoted quote l.indent l.cursor
  let (_, c) ← c.skipGap
  let flow := !l.outer.isEmpty
  let follows : Bool := match c.rest with
    | [] => true
    | d :: _ =>
      isBreak d || (flow && (d = ',' || d = ']' || d = '\x7d')) || (d = ':' && (flow || l.cursor.line = c.line))
  if !follows then none
  let l ← (l.goto c).skipFree
  some ({ l with adjacent := l.cursor.index }.push (.scalar false (String.ofList text)))

/-- Reads a plain scalar. -/
def plain (l : Lexer) : Option Lexer := do
  let l := (l.note.allow false).dropValues
  let flow := !l.outer.isEmpty
  if flow ∧ l.cursor.column < l.indent + 1 then none
  let (text, c) ← readPlain flow (l.indent + 1) l.cursor
  let l := l.goto c
  some ((if c.fresh then l.allow true else l).push (.scalar true (String.ofList text)))

/-- Reads a block of lines. -/
def block (folded : Bool) (l : Lexer) : Option Lexer := do
  let l := (l.note.allow true).dropValues
  let (text, c) ← readBlock folded l.indent (l.cursor.skip 1)
  some ((l.goto c).push (.scalar false (String.ofList text)))

/-! ### Documents -/

/-- Reads a mark of a document. -/
def mark (t : Token) (l : Lexer) : Option Lexer := do
  let l ← (l.close (-1)).giveUp
  some (((l.allow false).skip 3).push t)

/-- Reads a directive. -/
def directive (l : Lexer) : Option Lexer := do
  let l ← (l.close (-1)).giveUp
  let (d, c) ← readDirective (l.cursor.skip 1)
  some (((l.allow false).goto c).push (.directive d))

/-- Reads the token that starts with a character, in front of a text. -/
def token (c : Char) (s : List Char) (l : Lexer) : Option Lexer :=
  let flow := !l.outer.isEmpty
  match c with
  | '[' => l.openBracket false
  | '\x7b' => l.openBracket true
  | ']' => l.closeBracket false
  | '\x7d' => l.closeBracket true
  | ',' => l.comma
  | '*' => l.anchor .alias
  | '&' => l.anchor .anchor
  | '!' => l.tag
  | '\'' | '"' => l.quoted c
  | '%' | '@' | '\x60' => none
  | '-' => if isGap s then l.item else l.plain
  | '?' => if isGap s then l.markedKey else l.plain
  | ':' =>
    if isGap s || (flow && (s.head?.any isSign || l.cursor.index = l.adjacent)) then l.value else l.plain
  | '|' => if flow then l.plain else l.block false
  | '>' => if flow then l.plain else l.block true
  | _ => l.plain

/-- Reads all tokens. -/
def run : Nat → Lexer → Option (List Token)
  | 0, _ => none
  | fuel + 1, l => do
    let l ← l.skipFree
    let l ← l.expire
    let column := l.cursor.column
    let l := l.close column
    match l.cursor.rest with
    | [] =>
      let l ← (l.close (-1)).giveUp
      some l.tokens
    | c :: s =>
      let l ←
        if column = 0 ∧ c = '%' then l.directive
        else if column = 0 ∧ isMark '-' (c :: s) then l.mark .documentStart
        else if column = 0 ∧ isMark '.' (c :: s) then do
          let l ← l.mark .documentEnd
          let c ← l.cursor.skipLine
          some (l.goto c)
        else if (column : Int) < l.indent then none
        else l.token c s
      run fuel l

end Lexer

/-- The tokens of a text, which ends at a zero character. -/
def tokens (s : List Char) : Option (List Token) :=
  let s := s.takeWhile (· != '\x00')
  Lexer.run (s.length + 2) (.start s)

end HostingClient.Yaml
