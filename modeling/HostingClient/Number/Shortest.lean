import HostingClient.Number.Binary64

/-! # Shortest decimals

The shortest decimal of a binary64 number is the one with the fewest digits among those that round back to
the number, and of those the nearest; which one is taken halfway between two is up to the format. A decimal rounds
back if it lies in the interval that ends halfway to the neighbours; the ends belong to the interval when the
significand is even.

For each count of digits only the two decimals next to the number have to be tried: if any decimal with that
many digits lies in the interval, so does one of these two. -/

namespace HostingClient.Number

/-- A positive decimal, `digits * 10 ^ exponent`. -/
structure Decimal where
  digits : Nat
  exponent : Int
deriving DecidableEq, Repr

/-- Ratios of natural numbers, compared exactly. -/
structure Ratio where
  num : Nat
  den : Nat

namespace Ratio

/-- `r * 10 ^ e`. -/
def scale10 (r : Ratio) (e : Int) : Ratio :=
  if 0 ≤ e then ⟨r.num * Nat.pow 10 e.toNat, r.den⟩ else ⟨r.num, r.den * Nat.pow 10 (-e).toNat⟩

/-- `r * 2 ^ e`. -/
def scale2 (r : Ratio) (e : Int) : Ratio :=
  if 0 ≤ e then ⟨r.num * Nat.pow 2 e.toNat, r.den⟩ else ⟨r.num, r.den * Nat.pow 2 (-e).toNat⟩

def lt (a b : Ratio) : Bool := a.num * b.den < b.num * a.den

def le (a b : Ratio) : Bool := a.num * b.den ≤ b.num * a.den

/-- The distance of two ratios. -/
def distance (a b : Ratio) : Ratio :=
  let (x, y) := (a.num * b.den, b.num * a.den)
  ⟨if x ≤ y then y - x else x - y, a.den * b.den⟩

end Ratio

namespace Shortest

/-- The decimals that round back to a number. -/
structure Interval where
  low : Ratio
  high : Ratio
  closed : Bool

def Interval.contains (i : Interval) (r : Ratio) : Bool :=
  if i.closed then i.low.le r && r.le i.high else i.low.lt r && r.lt i.high

/-- The interval of a nonzero number, by magnitude. The gap below a power of two is half as wide. -/
def interval (x : Binary64) : Interval :=
  let m := x.significand
  let narrow := m = Binary64.leastNormal ∧ Binary64.leastExponent < x.exponent
  let quarter (n : Nat) : Ratio := (Ratio.mk n 1).scale2 (x.exponent - 2)
  ⟨quarter (if narrow then 4 * m - 1 else 4 * m - 2), quarter (4 * m + 2), m % 2 = 0⟩

/-- The least `p` with `r < 10 ^ p`, searched upwards from a start that is not above it. -/
def magnitudeFrom (r : Ratio) : Nat → Int → Int
  | 0, p => p
  | fuel + 1, p => if r.lt ((Ratio.mk 1 1).scale10 p) then p else magnitudeFrom r fuel (p + 1)

/-- The number of digits before the point of a positive ratio, negative for zeros after the point. -/
def magnitude (r : Ratio) : Int :=
  let bits : Int := (r.num.log2 : Int) - r.den.log2 - 1
  magnitudeFrom r 5 (bits * 30103 / 100000 - 1)

/-- Which of two decimals is taken for a number halfway between them. -/
inductive Tie where
  /-- The one whose last digit is even. -/
  | even
  /-- The greater one. -/
  | up
deriving DecidableEq, Repr

/-- Whether the lower of the decimals with digits `q` and `q + 1` is taken halfway between them. -/
def Tie.takesLower : Tie → Nat → Bool
  | even, q => q % 2 = 0
  | up, _ => false

/-- The decimal with digits down to `10 ^ e` that lies in the interval, the nearer if there are two. -/
def candidate (tie : Tie) (i : Interval) (r : Ratio) (e : Int) : Option Decimal :=
  let q := let s := r.scale10 (-e); s.num / s.den
  let value (n : Nat) : Ratio := (Ratio.mk n 1).scale10 e
  let lower := q ≠ 0 ∧ i.contains (value q) = true
  let upper := i.contains (value (q + 1)) = true
  if lower ∧ upper then
    let (below, above) := (r.distance (value q), r.distance (value (q + 1)))
    some ⟨if below.lt above || (below.le above && tie.takesLower q) then q else q + 1, e⟩
  else if lower then some ⟨q, e⟩
  else if upper then some ⟨q + 1, e⟩
  else none

/-- Moves trailing zeros of the digits into the exponent. -/
def stripZeros : Nat → Decimal → Decimal
  | 0, d => d
  | fuel + 1, d => if d.digits ≠ 0 ∧ d.digits % 10 = 0 then stripZeros fuel ⟨d.digits / 10, d.exponent + 1⟩ else d

/-- The shortest decimal of the magnitude of a nonzero number. -/
def ofBinary64 (tie : Tie) (x : Binary64) : Decimal :=
  let r : Ratio := ⟨x.ratio.1, x.ratio.2⟩
  let i := interval x
  let p := magnitude r
  let found := (List.range 17).findSome? fun (n : Nat) => candidate tie i r (p - (n + 1))
  stripZeros 20 (found.getD ⟨x.significand, 0⟩)

end Shortest

/-- The digits of a natural number. -/
def digitsOf (n : Nat) : List Char := (Nat.repr n).toList

/-- The text of a number with its shortest digits and no exponent: `-0.25`, `1`, `100`. -/
def Binary64.plainText (x : Binary64) : List Char :=
  let sign : List Char := if x.negative then ['-'] else []
  if x.isZero then sign ++ ['0']
  else
    let d := Shortest.ofBinary64 .up x
    let ds := digitsOf d.digits
    let point : Int := ds.length + d.exponent
    sign ++
      if 0 ≤ d.exponent then ds ++ List.replicate d.exponent.toNat '0'
      else if 0 < point then ds.take point.toNat ++ '.' :: ds.drop point.toNat
      else '0' :: '.' :: (List.replicate (-point).toNat '0' ++ ds)

/-- The text of a number in data: it always shows a point or an exponent. The exponent form, with a sign, is used
from `1e+16` up and below `1e-5`. -/
def Binary64.dataText (x : Binary64) : List Char :=
  let sign : List Char := if x.negative then ['-'] else []
  if x.isZero then sign ++ ['0', '.', '0']
  else
    let d := Shortest.ofBinary64 .even x
    let ds := digitsOf d.digits
    let point : Int := ds.length + d.exponent
    sign ++
      if 0 ≤ d.exponent ∧ point ≤ 16 then ds ++ List.replicate d.exponent.toNat '0' ++ ['.', '0']
      else if 0 < point ∧ point ≤ 16 then ds.take point.toNat ++ '.' :: ds.drop point.toNat
      else if -5 < point ∧ point ≤ 0 then '0' :: '.' :: (List.replicate (-point).toNat '0' ++ ds)
      else
        let fraction := if ds.length ≤ 1 then [] else '.' :: ds.drop 1
        let power := point - 1
        ds.take 1 ++ fraction ++ 'e' :: (if power < 0 then '-' else '+') :: digitsOf power.natAbs

end HostingClient.Number
