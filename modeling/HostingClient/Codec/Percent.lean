import HostingClient.Text.Utf8

/-! # Percent encoding

Characters outside a set are written as their bytes, each as a percent sign and two hexadecimal digits. The
set never holds the percent sign, so decoding gives the text back. -/

namespace HostingClient.Codec.Percent

open HostingClient.Text

/-- A hexadecimal digit, in capitals. -/
def hexDigit (n : Nat) : Char := if n < 10 then Char.ofNat ('0'.toNat + n) else Char.ofNat ('A'.toNat + (n - 10))

/-- The value of a hexadecimal digit. -/
def hexValue? (c : Char) : Option Nat :=
  if '0' ≤ c ∧ c ≤ '9' then some (c.toNat - '0'.toNat)
  else if 'a' ≤ c ∧ c ≤ 'f' then some (c.toNat - 'a'.toNat + 10)
  else if 'A' ≤ c ∧ c ≤ 'F' then some (c.toNat - 'A'.toNat + 10)
  else none

/-- A byte as a percent sign and two digits. -/
def escapeByte (b : UInt8) : List Char := ['%', hexDigit (b.toNat / 16), hexDigit (b.toNat % 16)]

/-- A character as its escaped bytes. -/
def escapeChar (c : Char) : List Char := (String.utf8EncodeChar c).flatMap escapeByte

/-- A text in which only the characters that satisfy `keep` stand for themselves. -/
def encode (keep : Char → Bool) (s : List Char) : List Char := s.flatMap fun c => if keep c then [c] else escapeChar c

/-- The bytes of a text with escapes. A percent sign without two digits after it stands for itself. -/
def decode : List Char → List UInt8
  | [] => []
  | '%' :: a :: b :: rest =>
    match hexValue? a, hexValue? b with
    | some x, some y => UInt8.ofNat (x * 16 + y) :: decode rest
    | _, _ => String.utf8EncodeChar '%' ++ decode (a :: b :: rest)
  | c :: rest => String.utf8EncodeChar c ++ decode rest

/-- The characters that no part of an address gives a meaning. -/
def isUnreserved (c : Char) : Bool := c.isAlphanum || c = '-' || c = '_' || c = '.' || c = '~'

/-- A text as one segment of a path. -/
def segment (s : List Char) : List Char := encode isUnreserved s

/-- The characters that stand for themselves in form data. -/
def isFormChar (c : Char) : Bool := c.isAlphanum || c = '*' || c = '-' || c = '.' || c = '_'

/-- A text as a name or value in form data, where a plus sign stands for a space. -/
def form (s : List Char) : List Char := s.flatMap fun c => if c = ' ' then ['+'] else encode isFormChar [c]

end HostingClient.Codec.Percent
