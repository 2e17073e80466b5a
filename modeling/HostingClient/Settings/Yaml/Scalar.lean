import HostingClient.Number.Digit
import HostingClient.Settings.Yaml.Cursor

/-! # Written scalars

A scalar is plain, quoted, or a block of lines. In plain and quoted scalars a line break is a blank, and each empty
line a line break. A block keeps its lines or folds them; its end is cut, kept, or clipped to one line break. -/

namespace HostingClient.Yaml

/-! ### Between words -/

/-- What stands between two words of a scalar. -/
structure Between where
  /-- The blanks, as long as there is no line break. -/
  blanks : List Char
  /-- Whether a line ended. -/
  broken : Bool
  /-- Whether the first line break stands for a blank. -/
  folded : Bool
  /-- The further line breaks. -/
  more : Nat
deriving DecidableEq, Repr

namespace Between

/-- Nothing so far; `escaped` if a line break was escaped. -/
def none (escaped : Bool) : Between := ⟨[], escaped, false, 0⟩

/-- The text that stands between two words. -/
def text (b : Between) : List Char :=
  if !b.broken then b.blanks
  else if b.folded ∧ b.more = 0 then [' ']
  else List.replicate b.more '\n'

/-- Adds a line break. -/
def addBreak (b : Between) : Between := if b.broken then { b with more := b.more + 1 } else ⟨[], true, true, 0⟩

/-- Passes what stands between two words. After a line break a tab before column `least` is refused; if `lenient`,
not on an empty line, which does not count if it has a comment. -/
def pass (lenient : Bool) (least : Int) : Nat → Between → Cursor → Option (Between × Cursor)
  | 0, _, _ => Option.none
  | fuel + 1, b, c =>
    match c.rest with
    | [] => some (b, c)
    | d :: _ =>
      if isBreak d then pass lenient least fuel b.addBreak c.skipBreak
      else if isSpace d then
        if !b.broken then pass lenient least fuel { b with blanks := b.blanks ++ [d] } (c.skipBlanks 1)
        else if d = '\t' ∧ c.column < least then
          if lenient then
            match c.skipLine with
            | some e => pass lenient least fuel b (if e.fresh then e else e.skipBreak)
            | Option.none => Option.none
          else Option.none
        else pass lenient least fuel b (c.skipBlanks 1)
      else some (b, c)

end Between

/-! ### Quoted scalars -/

/-- The character of an escape of one letter. -/
def escaped? : Char → Option Char
  | '0' => some '\x00'
  | 'a' => some '\x07'
  | 'b' => some '\x08'
  | 't' | '\t' => some '\t'
  | 'n' => some '\n'
  | 'v' => some '\x0B'
  | 'f' => some '\x0C'
  | 'r' => some '\r'
  | 'e' => some '\x1B'
  | ' ' => some ' '
  | '"' => some '"'
  | '/' => some '/'
  | '\\' => some '\\'
  | 'N' => some '\u0085'
  | '_' => some '\u00A0'
  | 'L' => some '\u2028'
  | 'P' => some '\u2029'
  | _ => none

/-- The number of hexadecimal digits of an escape. -/
def escapeWidth : Char → Nat
  | 'x' => 2
  | 'u' => 4
  | 'U' => 8
  | _ => 0

/-- Reads an escape after its backslash: the character, and the length of the escape. -/
def readEscape : List Char → Option (Char × Nat)
  | [] => none
  | k :: s =>
    match escaped? k, escapeWidth k with
    | some d, _ => some (d, 1)
    | none, 0 => none
    | none, w => if s.length < w then none else (Number.charOf? (s.take w)).map fun d => (d, w + 1)

/-- Reads a word of a quoted scalar; whether a line break was escaped behind it. -/
def quotedWord (quote : Char) : Nat → Cursor → Option (List Char × Bool × Cursor)
  | 0, _ => none
  | fuel + 1, c =>
    let next (d : Char) (n : Nat) := (quotedWord quote fuel (c.skip n)).map fun (ds, e) => (d :: ds, e)
    match c.rest with
    | [] => some ([], false, c)
    | d :: s =>
      if isGap c.rest then some ([], false, c)
      else if d = quote then if d = '\'' ∧ s.head? = some d then next d 2 else some ([], false, c)
      else if d = '\\' ∧ quote = '"' then
        if s.head?.any isBreak then some ([], true, (c.skip 1).skipBreak)
        else match readEscape s with
          | some (e, n) => next e (n + 1)
          | none => none
      else next d 1

/-- Reads the words of a quoted scalar up to its closing quote. Its lines are indented at least by `indent`. -/
def quotedWords (quote : Char) (indent : Int) : Nat → Cursor → Option (List Char × Cursor)
  | 0, _ => none
  | fuel + 1, c =>
    if c.column = 0 ∧ (isMark '-' c.rest ∨ isMark '.' c.rest) ∨ c.rest.isEmpty ∨ c.column < indent then none
    else match quotedWord quote (c.rest.length + 1) c with
      | none => none
      | some (word, escaped, c) =>
        if c.rest.head? = some quote then some (word, c.skip 1)
        else match Between.pass false indent (c.rest.length + 1) (.none escaped) c with
          | none => none
          | some (b, c) => (quotedWords quote indent fuel c).map fun (more, c) => (word ++ b.text ++ more, c)

/-- Reads a quoted scalar. -/
def readQuoted (quote : Char) (indent : Int) (c : Cursor) : Option (List Char × Cursor) :=
  quotedWords quote indent (c.rest.length + 1) (c.skip 1)

/-! ### Plain scalars -/

/-- A word of a plain scalar. A colon at its end makes it a key; in brackets, `flow`, signs end it. -/
def plainWord (flow : Bool) : List Char → List Char
  | [] => []
  | c :: s =>
    if isSpace c || isBreak c || (flow && isSign c) then []
    else if c = ':' && (isGap s || (flow && s.head?.any isSign)) then []
    else c :: plainWord flow s

/-- Reads the words of a plain scalar; `b` stands in front. Outside brackets its lines are indented at least by
`least`. -/
def plainWords (flow : Bool) (least : Int) : Nat → Between → Cursor → Option (List Char × Cursor)
  | 0, _, _ => none
  | fuel + 1, b, c =>
    let marked : Bool := c.fresh && c.column = 0 && (isMark '-' c.rest || isMark '.' c.rest)
    if marked || c.rest.head? = some '#' then some ([], c)
    else if flow && c.rest.head? = some '-' && c.rest.tail.head?.any isSign then none
    else
      let word := plainWord flow c.rest
      let text := if word.isEmpty then [] else b.text ++ word
      let c := if word.isEmpty then c else c.skip word.length
      if c.rest.isEmpty || !(isGap c.rest) then some (text, c)
      else match Between.pass true least (c.rest.length + 1) (.none false) c with
        | none => none
        | some (b, c) =>
          if !flow ∧ c.column < least then some (text, c)
          else (plainWords flow least fuel b c).map fun (more, c) => (text ++ more, c)

/-- Reads a plain scalar. -/
def readPlain (flow : Bool) (least : Int) (c : Cursor) : Option (List Char × Cursor) :=
  plainWords flow least (c.rest.length + 1) (.none false) c

/-! ### Blocks -/

/-- What a block does with the line breaks at its end. -/
inductive Chomp where
  | strip
  | clip
  | keep
deriving DecidableEq, Repr

/-- Reads what happens at the end of a block. -/
def chompSign : Cursor → Chomp × Cursor := fun c =>
  match c.rest with
  | '+' :: _ => (.keep, c.skip 1)
  | '-' :: _ => (.strip, c.skip 1)
  | _ => (.clip, c)

/-- Reads how far a block is indented, which is at least one column. -/
def widthSign (c : Cursor) : Option (Option Nat × Cursor) :=
  match c.rest with
  | d :: _ =>
    if !d.isDigit then some (none, c)
    else if d = '0' then none
    else some (some (d.toNat - '0'.toNat), c.skip 1)
  | [] => some (none, c)

/-- Reads the signs of a block, in either order. -/
def blockSigns (c : Cursor) : Option (Chomp × Option Nat × Cursor) :=
  match chompSign c with
  | (.clip, c) => (widthSign c).map fun (width, c) =>
    match width with
    | some _ => ((chompSign c).1, width, (chompSign c).2)
    | none => (.clip, none, c)
  | (chomp, c) => (widthSign c).map fun (width, c) => (chomp, width, c)

/-- Passes empty lines, and at most `limit` spaces of the next one: the number of lines, the greatest column, and
the place reached. -/
def passEmpty (limit : Option Nat) : Nat → Cursor → Nat × Nat × Cursor
  | 0, c => (0, 0, c)
  | fuel + 1, c =>
    let n := (c.rest.takeWhile (· == ' ')).length
    let c := c.skipBlanks (match limit with
      | some k => min n (k - c.column)
      | none => n)
    if c.rest.head?.any isBreak then
      let (lines, widest, d) := passEmpty limit fuel c.skipBreak
      (lines + 1, max widest c.column, d)
    else (0, c.column, c)

/-- What a block holds so far. -/
structure BlockText where
  text : List Char
  /-- Whether the last line is ended. -/
  ended : Bool
  /-- The empty lines after it. -/
  empty : Nat
  /-- Whether it starts with a blank: such lines are not folded. -/
  blank : Bool
deriving DecidableEq, Repr

/-- Adds a line to a block; `blank` tells whether it starts with a blank. -/
def BlockText.add (folded : Bool) (line : List Char) (blank : Bool) (b : BlockText) : List Char :=
  let breaks := List.replicate b.empty '\n'
  if folded ∧ b.ended ∧ !b.blank ∧ !blank then b.text ++ (if b.empty = 0 then [' '] else breaks) ++ line
  else b.text ++ (if b.ended then ['\n'] else []) ++ breaks ++ line

/-- Reads the lines of a block that are indented by `n`. -/
def blockLines (folded : Bool) (n : Nat) : Nat → BlockText → Cursor → BlockText × Cursor
  | 0, b, c => (b, c)
  | fuel + 1, b, c =>
    if c.column ≠ n ∨ c.rest.isEmpty then (b, c)
    else
      let line := c.rest.takeWhile fun d => !isBreak d
      let blank := line.head?.any isSpace
      let text := b.add folded line blank
      let c := c.skipBlanks line.length
      if c.rest.isEmpty then (⟨text, false, 0, blank⟩, c)
      else
        let (empty, _, d) := passEmpty (some n) (c.rest.length + 1) c.skipBreak
        blockLines folded n fuel ⟨text, true, empty, blank⟩ d

/-- Reads a block after the sign that starts it, inside a level at column `indent`. -/
def readBlock (folded : Bool) (indent : Int) (c : Cursor) : Option (List Char × Cursor) := do
  let (chomp, width, c) ← blockSigns c
  let header ← c.skipLine
  let c := header.skipBreak
  if c.rest.head? = some '\t' then none
  let limit := width.map fun w => indent.toNat + w
  let (empty, widest, c) := passEmpty limit (c.rest.length + 1) c
  let n := limit.getD (max widest (indent + 1).toNat)
  if c.rest.isEmpty then
    let text : List Char :=
      if chomp = .strip ∨ header.rest.isEmpty then []
      else if chomp = .clip then ['\n']
      else List.replicate (max empty 1) '\n'
    some (text, c)
  else if c.column < n ∧ indent < c.column then none
  else
    let (b, c) := blockLines folded n (c.rest.length + 1) ⟨[], false, empty, false⟩ c
    let clipped : List Char :=
      (if b.ended then ['\n'] else []) ++ (if c.rest.isEmpty ∧ max n 1 ≤ c.column then ['\n'] else [])
    let text : List Char := match chomp with
      | .strip => b.text
      | .clip => b.text ++ clipped
      | .keep => b.text ++ clipped ++ List.replicate b.empty '\n'
    some (text, c)

end HostingClient.Yaml
