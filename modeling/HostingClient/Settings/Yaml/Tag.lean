import HostingClient.Number.Digit
import HostingClient.Settings.Yaml.Cursor

/-! # Tags, names and directives

A tag tells what a node is. It is written in full in angle brackets, or as a handle and a name; a directive in front
of a document says what a handle stands for. -/

namespace HostingClient.Yaml

/-! ### Characters -/

/-- Whether a character may stand in a word of a directive or a handle. -/
def isHandleChar (c : Char) : Bool := c.isAlphanum || c = '_' || c = '-'

/-- Whether a character may stand in a tag that is written in full. -/
def isTagChar (c : Char) : Bool :=
  c.isAlphanum || ['-', '#', ';', '/', '?', ':', '@', '&', '=', '+', '$', ',', '_', '.', '!', '~', '*', '\'', '(', ')',
    '[', ']', '%'].contains c

/-- Whether a character may stand in the name of a tag. -/
def isTagNameChar (c : Char) : Bool := isTagChar c && !isSign c && c != '!'

/-- Whether a character may stand in the name of an anchor. -/
def isAnchorChar (c : Char) : Bool := !(isSpace c || isBreak c || isSign c || c = '\uFEFF')

/-! ### Escapes -/

/-- The byte of an escape: a percent sign and two hexadecimal digits. -/
def escapedByte? : List Char → Option Nat
  | '%' :: a :: b :: _ => Number.ofBase? 16 [a, b]
  | _ => none

/-- The number of bytes of a character with this first byte. -/
def byteCount? (b : Nat) : Option Nat :=
  if b < 0x80 then some 1
  else if 0xC0 ≤ b ∧ b < 0xE0 then some 2
  else if 0xE0 ≤ b ∧ b < 0xF0 then some 3
  else if 0xF0 ≤ b ∧ b < 0xF8 then some 4
  else none

/-- The number that `n` further bytes give after `code`. -/
def escapedCode : Nat → Nat → List Char → Option Nat
  | 0, code, _ => some code
  | n + 1, code, s =>
    match escapedByte? s with
    | some b => if 0x80 ≤ b ∧ b < 0xC0 then escapedCode n (code * 0x100 + b) (s.drop 3) else none
    | none => none

/-- Reads an escaped character: its bytes, one after the other, are its code point. Also the length of the escape. -/
def readEscaped (s : List Char) : Option (Char × Nat) := do
  let first ← escapedByte? s
  let n ← byteCount? first
  let code ← escapedCode (n - 1) first (s.drop 3)
  if code.isValidChar then some (Char.ofNat code, 3 * n) else none

/-- Reads the longest text of some characters, in which other characters can be escaped. -/
def readTagText (allowed : Char → Bool) : Nat → Cursor → Option (List Char × Cursor)
  | 0, _ => none
  | fuel + 1, c =>
    match c.rest with
    | [] => some ([], c)
    | d :: _ =>
      if !allowed d then some ([], c)
      else if d = '%' then
        match readEscaped c.rest with
        | some (e, n) => (readTagText allowed fuel (c.skip n)).map fun (text, c) => (e :: text, c)
        | none => none
      else (readTagText allowed fuel (c.skip 1)).map fun (text, c) => (d :: text, c)

/-! ### Tags -/

/-- A tag: what its handle stands for, and its name. -/
structure Tag where
  handle : String
  name : String
deriving DecidableEq, Repr

/-- Reads a handle: a word after an exclamation mark, and another mark if there is one. -/
def readHandle (c : Cursor) : Option (List Char × Cursor) :=
  match c.rest with
  | '!' :: s =>
    let word := s.takeWhile isHandleChar
    let d := c.skip (word.length + 1)
    if d.rest.head? = some '!' then some ('!' :: word ++ ['!'], d.skip 1) else some ('!' :: word, d)
  | _ => none

/-- Whether a handle is closed by an exclamation mark. -/
def isClosed (handle : List Char) : Bool := 2 ≤ handle.length && handle.getLast? = some '!'

/-- Reads the name of a tag. -/
def readTagName (c : Cursor) : Option (List Char × Cursor) := readTagText isTagNameChar (c.rest.length + 1) c

/-- Reads a tag. A handle that is not closed belongs to the name; an exclamation mark alone is a tag without a
handle. -/
def readTag (c : Cursor) : Option (Tag × Cursor) := do
  if c.rest.take 2 = ['!', '<'] then
    let (text, c) ← readTagText isTagChar (c.rest.length + 1) (c.skip 2)
    if c.rest.head? = some '>' then some (⟨"", String.ofList text⟩, c.skip 1) else none
  else
    let (handle, c) ← readHandle c
    let (name, c) ← readTagName c
    if isClosed handle then
      if name.isEmpty then none else some (⟨String.ofList handle, String.ofList name⟩, c)
    else if handle.length = 1 ∧ name.isEmpty then some (⟨"", "!"⟩, c)
    else some (⟨"!", String.ofList (handle.drop 1 ++ name)⟩, c)

/-! ### Directives -/

/-- What stands on a line in front of a document. -/
inductive Directive where
  | version
  /-- What a handle stands for. A directive that is not known says so of the empty handle. -/
  | handle (name start : String)
deriving DecidableEq, Repr

/-- Reads a number of up to nine digits. -/
def skipNumber (c : Cursor) : Option Cursor :=
  let n := (c.rest.takeWhile Char.isDigit).length
  if n = 0 ∨ 9 < n then none else some (c.skip n)

/-- Passes blanks. -/
def skipSpaces (c : Cursor) : Cursor := c.skipBlanks (c.rest.takeWhile isSpace).length

/-- Reads the start of the tags that a handle stands for. -/
def readTagStart (c : Cursor) : Option (List Char × Cursor) :=
  match c.rest with
  | '!' :: _ => (readTagText isTagChar c.rest.length (c.skip 1)).map fun (text, c) => ('!' :: text, c)
  | d :: _ => if isTagNameChar d then readTagText isTagChar (c.rest.length + 1) c else none
  | [] => none

/-- Reads a directive after its percent sign, with the rest of its line. -/
def readDirective (c : Cursor) : Option (Directive × Cursor) := do
  let name := c.rest.takeWhile isHandleChar
  let c := c.skip name.length
  if name.isEmpty ∨ !(isGap c.rest) then none
  let (directive, c) ←
    if name = ['Y', 'A', 'M', 'L'] then do
      let c ← skipNumber (skipSpaces c)
      if c.rest.head? ≠ some '.' then none
      let c ← skipNumber (c.skip 1)
      some (Directive.version, c)
    else if name = ['T', 'A', 'G'] then do
      let (handle, c) ← readHandle (skipSpaces c)
      if !(isClosed handle) ∧ 1 < handle.length then none
      let (start, c) ← readTagStart (skipSpaces c)
      if !(isGap c.rest) then none
      some (Directive.handle (String.ofList handle) (String.ofList start), c)
    else some (Directive.handle "" "", c.skip (c.rest.takeWhile fun d => !isBreak d).length)
  let c ← c.skipLine
  some (directive, c.skipBreak)

end HostingClient.Yaml
