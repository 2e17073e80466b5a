/-! # Digits

Digits in bases up to sixteen, and the numbers and characters that they stand for. -/

namespace HostingClient.Number

/-- The value of a digit. -/
def digitValue? (c : Char) : Option Nat :=
  if '0' ≤ c ∧ c ≤ '9' then some (c.toNat - '0'.toNat)
  else if 'a' ≤ c ∧ c ≤ 'f' then some (c.toNat - 'a'.toNat + 10)
  else if 'A' ≤ c ∧ c ≤ 'F' then some (c.toNat - 'A'.toNat + 10)
  else none

/-- Whether a character is a digit in a base. -/
def isDigitOf (base : Nat) (c : Char) : Bool := (digitValue? c).any (· < base)

/-- The number that some digits stand for in a base. -/
def ofBase? (base : Nat) (ds : List Char) : Option Nat :=
  if ds.isEmpty || !(ds.all (isDigitOf base)) then none
  else some (ds.foldl (fun n c => n * base + (digitValue? c).getD 0) 0)

/-- The character whose code point is given in hexadecimal. -/
def charOf? (ds : List Char) : Option Char :=
  match ofBase? 16 ds with
  | some n => if n.isValidChar then some (Char.ofNat n) else none
  | none => none

end HostingClient.Number
