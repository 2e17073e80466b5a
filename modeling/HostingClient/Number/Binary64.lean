/-! # Finite binary64 numbers

A finite binary64 number is a sign, a significand below `2 ^ 53` and an exponent of two, kept in lowest
form: the significand is at least `2 ^ 52` unless the exponent is the least one. Every operation is exact
arithmetic on natural numbers followed by one rounding to the nearest representable number, ties to the
even significand. -/

namespace HostingClient.Number

/-- A finite binary64 number, `± significand * 2 ^ exponent`. -/
structure Binary64 where
  negative : Bool
  significand : Nat
  exponent : Int
deriving DecidableEq, Repr, Inhabited

namespace Binary64

/-- The exponent of the smallest positive number. -/
def leastExponent : Int := -1074

/-- The exponent of the largest numbers. -/
def greatestExponent : Int := 971

/-- The least significand of 53 bits, `2 ^ 52`. -/
def leastNormal : Nat := 4503599627370496

/-- Zero with a sign. -/
def zero (negative : Bool) : Binary64 := ⟨negative, 0, leastExponent⟩

/-- Whether a number is a zero of either sign. -/
def isZero (x : Binary64) : Bool := x.significand == 0

/-- The number with the other sign. -/
def neg (x : Binary64) : Binary64 := { x with negative := !x.negative }

/-- The quotient of two natural numbers, rounded to the nearest natural number, ties to the even one. -/
def divNearestEven (num den : Nat) : Nat :=
  let q := num / den
  let r := num % den
  if den < 2 * r || (2 * r == den && q % 2 == 1) then q + 1 else q

/-- The exponent at which a positive ratio has a significand of 53 bits, or the least exponent. -/
def exponentOf (num den : Nat) : Int :=
  let e : Int := (num.log2 : Int) - den.log2
  let below := if 0 ≤ e then num < den * Nat.pow 2 e.toNat else num * Nat.pow 2 (-e).toNat < den
  max leastExponent (if below then e - 53 else e - 52)

/-- The representable number nearest to `± num / den`, none if it is too large. -/
def ofRatio (negative : Bool) (num den : Nat) : Option Binary64 :=
  if num = 0 then some (zero negative)
  else
    let e := exponentOf num den
    let q := if 0 ≤ e then divNearestEven num (den * Nat.pow 2 e.toNat)
      else divNearestEven (num * Nat.pow 2 (-e).toNat) den
    let x : Binary64 := if q = 2 * leastNormal then ⟨negative, leastNormal, e + 1⟩ else ⟨negative, q, e⟩
    if x.isZero then some (zero negative) else if greatestExponent < x.exponent then none else some x

/-- The magnitude as a ratio. -/
def ratio (x : Binary64) : Nat × Nat :=
  if 0 ≤ x.exponent then (x.significand * Nat.pow 2 x.exponent.toNat, 1)
  else (x.significand, Nat.pow 2 (-x.exponent).toNat)

/-- The number nearest to an integer; an integer in the range of a 64-bit word always has one. -/
def ofInt (i : Int) : Binary64 := (ofRatio (i < 0) i.natAbs 1).getD (zero false)

/-- The product of two numbers, none if it is too large. -/
def mul (x y : Binary64) : Option Binary64 :=
  ofRatio (x.negative != y.negative) (x.ratio.1 * y.ratio.1) (x.ratio.2 * y.ratio.2)

/-- The quotient of two numbers, the divisor not being zero; none if it is too large. -/
def div (x y : Binary64) : Option Binary64 :=
  ofRatio (x.negative != y.negative) (x.ratio.1 * y.ratio.2) (x.ratio.2 * y.ratio.1)

/-- The number nearest to `10 ^ n`, for `n` up to 308. -/
def powerOfTen (n : Nat) : Binary64 := (ofRatio false (Nat.pow 10 n) 1).getD (zero false)

/-- The number nearest to `± digits * 10 ^ exponent`, none if it is too large. Exponents that decide the
answer alone are not raised to a power. -/
def ofDecimal (negative : Bool) (digits : Nat) (exponent : Int) : Option Binary64 :=
  if digits = 0 then some (zero negative)
  else if 400 < exponent then none
  else if exponent + (Nat.toDigits 10 digits).length < -400 then some (zero negative)
  else if 0 ≤ exponent then ofRatio negative (digits * Nat.pow 10 exponent.toNat) 1
  else ofRatio negative digits (Nat.pow 10 (-exponent).toNat)

/-- The integer between a number and zero that is nearest to it. -/
def truncate (x : Binary64) : Int :=
  let n := x.ratio.1 / x.ratio.2
  if x.negative then -(n : Int) else n

/-- The integer nearest to a number, a half going away from zero. -/
def roundAway (x : Binary64) : Int :=
  let n := (2 * x.ratio.1 + x.ratio.2) / (2 * x.ratio.2)
  if x.negative then -(n : Int) else n

end Binary64

end HostingClient.Number
