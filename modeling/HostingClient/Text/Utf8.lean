/-! # UTF-8 with faults

Bytes are read as symbols: a character, or a stray part that belongs to no character. A stray part is
the longest start of a byte sequence that could still have become a character, so replacing each one by
U+FFFD gives the text that readers of the web show for damaged bytes. -/

namespace HostingClient.Text

/-- One unit of bytes read as text. -/
inductive Symbol where
  | char (c : Char)
  /-- Some bytes, at most three, that belong to no character. -/
  | stray (width : Nat)
deriving DecidableEq, Repr, Inhabited

namespace Symbol

/-- The number of bytes a symbol takes. -/
def width : Symbol → Nat
  | char c => c.utf8Size
  | stray w => w

/-- The character of a symbol, U+FFFD where there is none. -/
def shown : Symbol → Char
  | char c => c
  | stray _ => '\uFFFD'

end Symbol

namespace Utf8

/-- The bytes of a text. -/
def encode (s : List Char) : List UInt8 := s.flatMap String.utf8EncodeChar

/-- A character of which only the first bytes have been read. -/
structure Pending where
  /-- The bytes read. -/
  width : Nat
  /-- The bytes still to come. -/
  missing : Nat
  /-- The bits read. -/
  bits : Nat
  /-- The bounds of the next byte. -/
  low : Nat
  high : Nat

/-- The pending character that a first byte opens, if it opens one. -/
def Pending.ofFirst (x : Nat) : Option Pending :=
  if 0xC2 ≤ x && x < 0xE0 then some ⟨1, 1, x - 0xC0, 0x80, 0xBF⟩
  else if 0xE0 ≤ x && x < 0xF0 then
    some ⟨1, 2, x - 0xE0, if x = 0xE0 then 0xA0 else 0x80, if x = 0xED then 0x9F else 0xBF⟩
  else if 0xF0 ≤ x && x < 0xF5 then
    some ⟨1, 3, x - 0xF0, if x = 0xF0 then 0x90 else 0x80, if x = 0xF4 then 0x8F else 0xBF⟩
  else none

/-- The symbols of some bytes that follow a pending character. -/
def symbolsAfter : Option Pending → List UInt8 → List Symbol
  | none, [] => []
  | some p, [] => [.stray p.width]
  | pending, b :: rest =>
    let x := b.toNat
    match pending with
    | some p =>
      if p.low ≤ x && x ≤ p.high then
        let bits := p.bits * 64 + (x - 0x80)
        if p.missing ≤ 1 then .char (Char.ofNat bits) :: symbolsAfter none rest
        else symbolsAfter (some ⟨p.width + 1, p.missing - 1, bits, 0x80, 0xBF⟩) rest
      else if x < 0x80 then .stray p.width :: .char (Char.ofNat x) :: symbolsAfter none rest
      else match Pending.ofFirst x with
        | some q => .stray p.width :: symbolsAfter (some q) rest
        | none => .stray p.width :: .stray 1 :: symbolsAfter none rest
    | none =>
      if x < 0x80 then .char (Char.ofNat x) :: symbolsAfter none rest
      else match Pending.ofFirst x with
        | some q => symbolsAfter (some q) rest
        | none => .stray 1 :: symbolsAfter none rest

/-- The symbols of some bytes. -/
def symbols (bytes : List UInt8) : List Symbol := symbolsAfter none bytes

/-- The text of some bytes, if they are all UTF-8. -/
def decode? (bytes : List UInt8) : Option (List Char) :=
  (symbols bytes).mapM fun
    | .char c => some c
    | .stray _ => none

/-- The text of some bytes, with U+FFFD for each stray part. -/
def decodeShown (bytes : List UInt8) : List Char := (symbols bytes).map Symbol.shown

end Utf8

end HostingClient.Text
