import HostingClient.Json.Outline
import HostingClient.Text.Utf8

/-! # The leaves of JSON text

Texts, numbers and words. A text is scanned into pieces first, which fixes where it ends; only then are
halves of surrogate pairs put together, since a text that is skipped need not have them in order. A number
keeps its digits until its value is asked for.

The value of a number with a fraction or an exponent is that of its first digits, as many as fit a word,
scaled once by a power of ten that is itself rounded. It is not always the nearest number to the decimal. -/

namespace HostingClient.Json

open HostingClient.Text HostingClient.Number

/-! ### Texts -/

/-- A part of a text: a character, a unit written by an escape, or bytes that are no character. -/
inductive Piece where
  | char (c : Char)
  | unit (n : Nat)
  | stray
deriving DecidableEq, Repr

/-- How the pieces of a text end. -/
inductive TextEnd where
  | closed (rest : List Symbol)
  | cut (f : SyntaxFault)
deriving Repr

/-- The value of a hexadecimal digit. -/
def hexDigit? (c : Char) : Option Nat :=
  if '0' ≤ c ∧ c ≤ '9' then some (c.toNat - '0'.toNat)
  else if 'a' ≤ c ∧ c ≤ 'f' then some (c.toNat - 'a'.toNat + 10)
  else if 'A' ≤ c ∧ c ≤ 'F' then some (c.toNat - 'A'.toNat + 10)
  else none

/-- The value of four hexadecimal digits. -/
def hexUnit? (a b c d : Char) : Option Nat :=
  match hexDigit? a, hexDigit? b, hexDigit? c, hexDigit? d with
  | some a, some b, some c, some d => some (((a * 16 + b) * 16 + c) * 16 + d)
  | _, _, _, _ => none

/-- The character of an escape of one letter. -/
def escaped? (c : Char) : Option Char :=
  match c with
  | '"' => some '"'
  | '\\' => some '\\'
  | '/' => some '/'
  | 'b' => some '\x08'
  | 'f' => some '\x0C'
  | 'n' => some '\n'
  | 'r' => some '\r'
  | 't' => some '\t'
  | _ => none

/-- The fault of an escape that lacks four hexadecimal digits: the text ends if fewer than four bytes are left. -/
def unitFault (rest : List Symbol) : SyntaxFault :=
  if (rest.take 4).foldl (fun n s => n + s.width) 0 < 4 then .ended else .malformed

/-- The pieces of a text, after its opening quote. -/
def scanText : List Symbol → List Piece × TextEnd
  | [] => ([], .cut .ended)
  | .stray _ :: rest =>
    let (pieces, e) := scanText rest
    (.stray :: pieces, e)
  | .char c :: rest =>
    if c = '"' then ([], .closed rest)
    else if c = '\\' then
      match rest with
      | [] => ([], .cut .ended)
      | .stray _ :: _ => ([], .cut .malformed)
      | .char k :: rest' =>
        if k = 'u' then
          match rest' with
          | .char x :: .char y :: .char z :: .char w :: rest'' =>
            match hexUnit? x y z w with
            | some n =>
              let (pieces, e) := scanText rest''
              (.unit n :: pieces, e)
            | none => ([], .cut .malformed)
          | _ => ([], .cut (unitFault rest'))
        else
          match escaped? k with
          | some d =>
            let (pieces, e) := scanText rest'
            (.char d :: pieces, e)
          | none => ([], .cut .malformed)
    else if c < ' ' then ([], .cut .malformed)
    else
      let (pieces, e) := scanText rest
      (.char c :: pieces, e)

/-- Whether a unit is the first half of a pair. -/
def isLeading (n : Nat) : Bool := 0xD800 ≤ n && n < 0xDC00

/-- Whether a unit is the second half of a pair. -/
def isTrailing (n : Nat) : Bool := 0xDC00 ≤ n && n < 0xE000

/-- The characters of some pieces. `cut` is the fault at which they end, if they are not all of the text. -/
def assemble (cut : Option SyntaxFault) : List Piece → Except SyntaxFault (List Char)
  | [] => match cut with
    | none => .ok []
    | some f => .error f
  | .char c :: rest => (assemble cut rest).map (c :: ·)
  | .stray :: rest => do
    let _ ← assemble cut rest
    .error .malformed
  | .unit n :: rest =>
    if isTrailing n then .error .malformed
    else if isLeading n then
      match rest with
      | [] => .error (cut.getD .malformed)
      | .unit m :: rest' =>
        if isTrailing m then
          (assemble cut rest').map (Char.ofNat (0x10000 + (n - 0xD800) * 0x400 + (m - 0xDC00)) :: ·)
        else .error .malformed
      | _ :: _ => .error .malformed
    else (assemble cut rest).map (Char.ofNat n :: ·)

/-! ### Numbers -/

/-- A number as written. -/
structure Lexeme where
  negative : Bool
  whole : List Nat
  fraction : List Nat
  /-- Whether the power of ten is negative, and its digits. -/
  power : Option (Bool × List Nat)
deriving DecidableEq, Repr

/-- The digits at the start of a text. -/
def spanDigits : List Symbol → List Nat × List Symbol
  | .char c :: rest =>
    if c.isDigit then
      let (digits, rest') := spanDigits rest
      ((c.toNat - '0'.toNat) :: digits, rest')
    else ([], .char c :: rest)
  | s => ([], s)

/-- The number of some digits. -/
def ofDigits (digits : List Nat) : Nat := digits.foldl (fun n d => n * 10 + d) 0

/-- A number scanned from a text. -/
inductive NumberScan where
  | number (l : Lexeme) (rest : List Symbol)
  | cut (read skip : SyntaxFault)

/-- The fault where a digit is missing: only a reader notices that the text has ended. -/
def missingDigit : List Symbol → NumberScan
  | [] => .cut .ended .malformed
  | _ :: _ => .cut .malformed .malformed

/-- Scans the power of ten. -/
def scanPower (negative : Bool) (whole fraction : List Nat) : List Symbol → NumberScan
  | .char c :: rest =>
    if c = 'e' ∨ c = 'E' then
      let (down, rest) := match rest with
        | .char '+' :: r => (false, r)
        | .char '-' :: r => (true, r)
        | r => (false, r)
      match spanDigits rest with
      | ([], r) => missingDigit r
      | (digits, r) => .number ⟨negative, whole, fraction, some (down, digits)⟩ r
    else .number ⟨negative, whole, fraction, none⟩ (.char c :: rest)
  | rest => .number ⟨negative, whole, fraction, none⟩ rest

/-- Scans a number after its sign. -/
def scanUnsigned (negative : Bool) (s : List Symbol) : NumberScan :=
  match spanDigits s with
  | ([], r) => missingDigit r
  | (0 :: _ :: _, _) => .cut .malformed .malformed
  | (whole, .char '.' :: r) =>
    match spanDigits r with
    | ([], r') => missingDigit r'
    | (fraction, r') => scanPower negative whole fraction r'
  | (whole, r) => scanPower negative whole [] r

/-- Scans a number, which starts with a digit or a minus sign. -/
def scanNumber : List Symbol → NumberScan
  | .char '-' :: r => scanUnsigned true r
  | s => scanUnsigned false s

/-- Takes digits into a significand while it fits a word; the rest of the digits is returned. -/
def takeDigits (significand : Nat) : List Nat → Nat × List Nat
  | [] => (significand, [])
  | d :: rest =>
    if greatestWord < significand * 10 + d then (significand, d :: rest)
    else takeDigits (significand * 10 + d) rest

/-- Divides by `10 ^ 308` some times, stopping at zero. -/
def scaleDown : Nat → Binary64 → Binary64
  | 0, x => x
  | n + 1, x => if x.isZero then x else scaleDown n ((x.div (Binary64.powerOfTen 308)).getD x)

/-- A word times a power of ten. -/
def scaled (significand : Nat) (power : Int) : Except SyntaxFault Binary64 :=
  let x := Binary64.ofInt significand
  if 0 ≤ power then
    if x.isZero then .ok x
    else if 308 < power then .error .malformed
    else match x.mul (Binary64.powerOfTen power.toNat) with
      | some y => .ok y
      | none => .error .malformed
  else
    let steps := ((-power).toNat - 1) / 308
    let y := scaleDown steps x
    .ok ((y.div (Binary64.powerOfTen ((-power).toNat - 308 * steps))).getD y)

/-- The largest power of ten that is looked at digit by digit. -/
def greatestPower : Nat := 2147483647

/-- The value of a number. -/
def Lexeme.value (l : Lexeme) : Except SyntaxFault Number.Value :=
  let (significand, dropped) := takeDigits 0 l.whole
  let sign (x : Binary64) : Number.Value := .float (if l.negative then x.neg else x)
  if l.fraction = [] ∧ l.power = none ∧ dropped = [] then
    if !l.negative then .ok (.int significand)
    else if significand = 0 ∨ -(significand : Int) < leastWord then .ok (sign (Binary64.ofInt significand))
    else .ok (.int (-significand))
  else
    let (significand, ignored) := takeDigits significand l.fraction
    let power : Int := dropped.length - (l.fraction.length - ignored.length : Nat)
    match l.power with
    | none => (scaled significand power).map sign
    | some (down, digits) =>
      let n := ofDigits digits
      if greatestPower < n then
        if significand ≠ 0 ∧ !down then .error .malformed else .ok (sign (Binary64.zero false))
      else (scaled significand (if down then power - n else power + n)).map sign

/-! ### Words -/

/-- Reads the rest of a word whose first letter has been seen. -/
def readWord (value : Outline) : List Char → List Symbol → Outline × Option (List Symbol)
  | [], rest => (value, some rest)
  | _ :: _, [] => (.broken .ended .ended, none)
  | c :: word, x :: rest =>
    if x = .char c then readWord value word rest else (.broken .malformed .malformed, none)

/-- Reads a text after its opening quote. -/
def readText (s : List Symbol) : Outline × Option (List Symbol) :=
  match scanText s with
  | (pieces, .closed rest) => (.text ((assemble none pieces).map String.ofList), some rest)
  | (pieces, .cut f) =>
    match assemble (some f) pieces with
    | .error g => (.broken g f, none)
    | .ok _ => (.broken f f, none)

/-- Reads the name of a member after its opening quote. -/
def readKey (s : List Symbol) : Key × Option (List Symbol) :=
  match readText s with
  | (.text (.ok k), rest) => (.text k, rest)
  | (.broken f g, rest) => (.broken f g, rest)
  | (_, rest) => (.unreadable, rest)

/-- Reads a leaf. The rest of the text is given only if the leaf is complete. -/
def readLeaf : List Symbol → Outline × Option (List Symbol)
  | .char c :: rest =>
    if c = '"' then readText rest
    else if c = 'n' then readWord .null ['u', 'l', 'l'] rest
    else if c = 't' then readWord (.bool true) ['r', 'u', 'e'] rest
    else if c = 'f' then readWord (.bool false) ['a', 'l', 's', 'e'] rest
    else if c = '-' ∨ c.isDigit then
      match scanNumber (.char c :: rest) with
      | .number l r => (.number l.value, some r)
      | .cut f g => (.broken f g, none)
    else (.broken .malformed .malformed, none)
  | .stray _ :: _ => (.broken .malformed .malformed, none)
  | [] => (.broken .ended .ended, none)

end HostingClient.Json
