import HostingClient.Settings.Document
import HostingClient.Time.Calendar

/-! # Words in TOML

Truth values, numbers, dates and times of day. A date or a time counts as the text of its own form. -/

namespace HostingClient.Toml

/-! ### Numbers -/

/-- Drops the underscores of a number; each must stand between digits. -/
def dropUnderscores (isDigit : Char → Bool) : List Char → Option (List Char)
  | [] => none
  | [c] => if isDigit c then some [c] else none
  | c :: '_' :: rest => if isDigit c then (dropUnderscores isDigit rest).map (c :: ·) else none
  | c :: rest => if isDigit c then (dropUnderscores isDigit rest).map (c :: ·) else none

/-- The digits of a decimal integer, which has no zero in front. -/
def wholeDigits (s : List Char) : Option (List Char) :=
  match dropUnderscores Char.isDigit s with
  | some ('0' :: _ :: _) => none
  | r => r

/-- An integer that fits a signed word. -/
def integer (i : Int) : Option Document :=
  if Document.fitsWord i then some (.integer i) else none

/-- An integer in another base. -/
def based (base : Nat) (s : List Char) : Option Document := do
  let ds ← dropUnderscores (Number.isDigitOf base) s
  let n ← Number.ofBase? base ds
  integer n

/-- Reads a decimal number. -/
def readDecimal (s : List Char) : Option Document := do
  let (negative, rest) := Number.Real.splitSign s
  let isPower (c : Char) : Bool := c = 'e' || c = 'E'
  let whole := rest.takeWhile fun c => c != '.' && !isPower c
  let w ← wholeDigits whole
  match rest.drop whole.length with
  | [] => integer (if negative then -(Number.Real.ofDigits w : Int) else Number.Real.ofDigits w)
  | tail => do
    let (fraction, power) := match tail with
      | '.' :: r => (some (r.takeWhile fun c => !isPower c), r.dropWhile fun c => !isPower c)
      | r => (none, r)
    let f ← match fraction with
      | some f => (dropUnderscores Char.isDigit f).map ('.' :: ·)
      | none => some []
    let p ← match power with
      | [] => some []
      | e :: r =>
        let (down, ds) := Number.Real.splitSign r
        (dropUnderscores Char.isDigit ds).map fun ds => e :: (if down then '-' else '+') :: ds
    let x ← Number.Real.read ((if negative then '-' else '+') :: (w ++ f ++ p))
    match x with
    | .finite _ => some (.real x)
    | _ => none

/-! ### Dates and times -/

/-- The number of exactly two digits. -/
def twoDigits : List Char → Option (Nat × List Char)
  | a :: b :: s => if a.isDigit && b.isDigit then some (Number.Real.ofDigits [a, b], s) else none
  | _ => none

/-- Reads a date; its text. -/
def readDate (s : List Char) : Option (List Char × List Char) := do
  let (century, r) ← twoDigits s
  let (year, r) ← twoDigits r
  match r with
  | '-' :: r => do
    let (m, r) ← twoDigits r
    match r with
    | '-' :: r => do
      let (d, r) ← twoDigits r
      if 1 ≤ m ∧ m ≤ 12 ∧ 1 ≤ d ∧ d ≤ Time.daysInMonth (century * 100 + year) m then some (s.take 10, r) else none
    | _ => none
  | _ => none

/-- Reads a fraction of a second; its text, which has at most nine digits and no zeros at the end but the first. -/
def readFraction (s : List Char) : Option (List Char × List Char) :=
  let ds := s.takeWhile Char.isDigit
  match ds.take 9 with
  | [] => none
  | d :: more => some ('.' :: d :: (more.reverse.dropWhile (· == '0')).reverse, s.drop ds.length)

/-- Reads a time of day, in which the seconds may be missing; its text. -/
def readTime (s : List Char) : Option (List Char × List Char) := do
  let (h, r) ← twoDigits s
  match r with
  | ':' :: r => do
    let (m, r) ← twoDigits r
    if !(h < 24 ∧ m < 60) then none
    match r with
    | ':' :: r => do
      let (sec, r) ← twoDigits r
      if 60 < sec then none
      match r with
      | '.' :: r => (readFraction r).map fun (fraction, r) => (s.take 8 ++ fraction, r)
      | r => some (s.take 8, r)
    | r => some (s.take 5, r)
  | _ => none

/-- Reads an offset from UTC; its text. No offset is written with a minus. -/
def readOffset : List Char → Option (List Char)
  | [] => some []
  | ['Z'] | ['z'] => some ['Z']
  | sign :: rest => do
    let (h, r) ← twoDigits rest
    match r with
    | ':' :: r => do
      let (m, r) ← twoDigits r
      if (sign = '+' ∨ sign = '-') ∧ h < 24 ∧ m < 60 ∧ r.isEmpty then
        some ((if h = 0 ∧ m = 0 then '+' else sign) :: rest)
      else none
    | _ => none

/-- Reads a date, a time of day or both; its text. -/
def readMoment (s : List Char) : Option (List Char) :=
  match readDate s with
  | some (date, []) => some date
  | some (date, c :: rest) =>
    if c = 'T' ∨ c = 't' ∨ c = ' ' then do
      let (time, r) ← readTime rest
      let offset ← readOffset r
      some (date ++ 'T' :: (time ++ offset))
    else none
  | none =>
    match readTime s with
    | some (time, []) => some time
    | _ => none

/-! ### Words -/

/-- Whether a character may stand in a number, a word or a date. -/
def isWordChar (c : Char) : Bool := c.isAlphanum || c = '+' || c = '-' || c = '_' || c = '.' || c = ':'

/-- The value of a word. -/
def wordValue (s : List Char) : Option Document :=
  let (negative, rest) := Number.Real.splitSign s
  if s = ['t', 'r', 'u', 'e'] then some (.flag true)
  else if s = ['f', 'a', 'l', 's', 'e'] then some (.flag false)
  else if rest = ['i', 'n', 'f'] then some (.real (.infinite negative))
  else if rest = ['n', 'a', 'n'] then some (.real .undefined)
  else match s with
    | '0' :: 'x' :: ds => based 16 ds
    | '0' :: 'o' :: ds => based 8 ds
    | '0' :: 'b' :: ds => based 2 ds
    | s => (readDecimal s).orElse fun _ => (readMoment s).map fun text => .text (String.ofList text)

/-- Reads a word. A date and a time may have a blank between them. -/
def readWord (s : List Char) : Option (Document × List Char) :=
  let word := s.takeWhile isWordChar
  let rest := s.drop word.length
  match readDate word, rest with
  | some (_, []), ' ' :: c :: more =>
    if c.isDigit then
      let time := (c :: more).takeWhile isWordChar
      (wordValue (word ++ ' ' :: time)).map fun d => (d, (c :: more).drop time.length)
    else (wordValue word).map fun d => (d, rest)
  | _, _ => (wordValue word).map fun d => (d, rest)

end HostingClient.Toml
