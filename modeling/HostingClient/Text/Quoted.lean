import HostingClient.Text.Unprinted

/-! # Quoted text

A text as a log shows it: in quotes, with escapes for quotes, backslashes and what would not be seen. -/

namespace HostingClient.Text.Quoted

/-- A number in hexadecimal digits, with no more of them than it needs. -/
def hexadecimal (n : Nat) : List Char := Nat.toDigits 16 n

/-- A character inside quotes. -/
def escape (c : Char) : List Char :=
  if c = '\x00' then ['\\', '0']
  else if c = '\t' then ['\\', 't']
  else if c = '\r' then ['\\', 'r']
  else if c = '\n' then ['\\', 'n']
  else if c = '"' then ['\\', '"']
  else if c = '\\' then ['\\', '\\']
  else if isUnprinted c then ['\\', 'u', '\x7b'] ++ hexadecimal c.toNat ++ ['\x7d']
  else [c]

/-- A text in quotes. -/
def encode (s : String) : String := String.ofList ('"' :: (s.toList.flatMap escape ++ ['"']))

end HostingClient.Text.Quoted
