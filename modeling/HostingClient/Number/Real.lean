import HostingClient.Number.Shortest

/-! # Numbers with a fraction

Binary64 numbers as text gives them: finite ones, the two infinities, and what is not a number. -/

namespace HostingClient.Number

/-- A binary64 number or the lack of one. -/
inductive Real where
  | finite (x : Binary64)
  | infinite (negative : Bool)
  | undefined
deriving DecidableEq, Repr, Inhabited

namespace Real

/-- The text of a number, without an exponent. -/
def text : Real → List Char
  | finite x => x.plainText
  | infinite false => ['i', 'n', 'f']
  | infinite true => ['-', 'i', 'n', 'f']
  | undefined => ['N', 'a', 'N']

/-- The natural number up to a bound that is nearest to a number, a half going up. -/
def toNatural (bound : Nat) : Real → Nat
  | finite x => min bound x.roundAway.toNat
  | infinite false => bound
  | infinite true => 0
  | undefined => 0

/-- The number of decimal digits. -/
def ofDigits (ds : List Char) : Nat := ds.foldl (fun n c => n * 10 + (c.toNat - '0'.toNat)) 0

/-- Splits off a sign; whether it is a minus. -/
def splitSign : List Char → Bool × List Char
  | '-' :: s => (true, s)
  | '+' :: s => (false, s)
  | s => (false, s)

/-- Reads a power of ten, which may be missing. -/
def readPower : List Char → Option Int
  | [] => some 0
  | c :: s =>
    if c = 'e' ∨ c = 'E' then
      let (negative, ds) := splitSign s
      if ds.isEmpty || !(ds.all Char.isDigit) then none
      else some (if negative then -(ofDigits ds : Int) else ofDigits ds)
    else none

/-- Reads a decimal: digits, a point among them, and a power of ten. A number that is too large is infinite. -/
def read (s : List Char) : Option Real := do
  let (negative, s) := splitSign s
  let whole := s.takeWhile Char.isDigit
  let (fraction, rest) := match s.drop whole.length with
    | '.' :: rest => (rest.takeWhile Char.isDigit, rest.dropWhile Char.isDigit)
    | rest => ([], rest)
  if whole.isEmpty && fraction.isEmpty then none
  let power ← readPower rest
  match Binary64.ofDecimal negative (ofDigits (whole ++ fraction)) (power - fraction.length) with
  | some x => some (.finite x)
  | none => some (.infinite negative)

end Real

end HostingClient.Number
