/-! # Base64

Bytes as text, six bits to a character. Three bytes make four digits; one or two bytes left over make two or
three digits, whose unused bits are zero. The two alphabets differ in their last two digits. Text without
padding is read back only if it is the text that would have been written. -/

namespace HostingClient.Codec.Base64

/-- The digits for 62 and 63. -/
structure Alphabet where
  sixtyTwo : Char
  sixtyThree : Char
deriving DecidableEq, Repr

/-- The alphabet of mail and of credentials. -/
def Alphabet.standard : Alphabet := ⟨'+', '/'⟩

/-- The alphabet that needs no escaping in addresses and file names. -/
def Alphabet.urlSafe : Alphabet := ⟨'-', '_'⟩

namespace Alphabet

/-- The digit of a value below 64. -/
def digit (a : Alphabet) (n : Nat) : Char :=
  if n < 26 then Char.ofNat ('A'.toNat + n)
  else if n < 52 then Char.ofNat ('a'.toNat + (n - 26))
  else if n < 62 then Char.ofNat ('0'.toNat + (n - 52))
  else if n = 62 then a.sixtyTwo
  else a.sixtyThree

/-- The value of a digit. -/
def value? (a : Alphabet) (c : Char) : Option Nat :=
  if 'A' ≤ c ∧ c ≤ 'Z' then some (c.toNat - 'A'.toNat)
  else if 'a' ≤ c ∧ c ≤ 'z' then some (c.toNat - 'a'.toNat + 26)
  else if '0' ≤ c ∧ c ≤ '9' then some (c.toNat - '0'.toNat + 52)
  else if c = a.sixtyTwo then some 62
  else if c = a.sixtyThree then some 63
  else none

end Alphabet

/-- The values of the digits of some bytes. -/
def sextets : List UInt8 → List Nat
  | [] => []
  | [a] => [a.toNat / 4, a.toNat % 4 * 16]
  | [a, b] => [a.toNat / 4, a.toNat % 4 * 16 + b.toNat / 16, b.toNat % 16 * 4]
  | a :: b :: c :: rest =>
    a.toNat / 4 :: (a.toNat % 4 * 16 + b.toNat / 16) :: (b.toNat % 16 * 4 + c.toNat / 64) :: c.toNat % 64 ::
      sextets rest

/-- The bytes of some digits, if the unused bits are zero. -/
def octets? : List Nat → Option (List UInt8)
  | [] => some []
  | [_] => none
  | [a, b] => if b % 16 = 0 then some [UInt8.ofNat (a * 4 + b / 16)] else none
  | [a, b, c] =>
    if c % 4 = 0 then some [UInt8.ofNat (a * 4 + b / 16), UInt8.ofNat (b % 16 * 16 + c / 4)] else none
  | a :: b :: c :: d :: rest =>
    (octets? rest).map fun bytes =>
      UInt8.ofNat (a * 4 + b / 16) :: UInt8.ofNat (b % 16 * 16 + c / 4) :: UInt8.ofNat (c % 4 * 64 + d) :: bytes

/-- The text of some bytes, without padding. -/
def encode (a : Alphabet) (bytes : List UInt8) : List Char := (sextets bytes).map a.digit

/-- The text of some bytes, padded to a multiple of four digits. -/
def encodePadded (a : Alphabet) (bytes : List UInt8) : List Char :=
  let s := encode a bytes
  s ++ List.replicate ((4 - s.length % 4) % 4) '='

/-- The bytes of a text without padding. -/
def decode? (a : Alphabet) (s : List Char) : Option (List UInt8) := s.mapM a.value? >>= octets?

end HostingClient.Codec.Base64
