import HostingClient.Json.Basic

/-! # Writing JSON text

Values are written without blanks, or with one member or item to a line and two blanks for each level. A
quote, a backslash and the characters below U+0020 are escaped, the shorter escape where there is one. -/

namespace HostingClient.Json

/-- A hexadecimal digit. -/
def hexChar (n : Nat) : Char := Char.ofNat (if n < 10 then '0'.toNat + n else 'a'.toNat + (n - 10))

/-- A character inside a text. -/
def quoteChar (c : Char) : List Char :=
  if c = '"' then ['\\', '"']
  else if c = '\\' then ['\\', '\\']
  else if c = '\x08' then ['\\', 'b']
  else if c = '\x0C' then ['\\', 'f']
  else if c = '\n' then ['\\', 'n']
  else if c = '\r' then ['\\', 'r']
  else if c = '\t' then ['\\', 't']
  else if c < ' ' then ['\\', 'u', '0', '0', hexChar (c.toNat / 16), hexChar (c.toNat % 16)]
  else [c]

/-- A text in quotes. -/
def quote (s : String) : List Char := '"' :: (s.toList.flatMap quoteChar ++ ['"'])

/-- A number. -/
def numberText : Number.Value → List Char
  | .int i => if i < 0 then '-' :: Number.digitsOf i.natAbs else Number.digitsOf i.natAbs
  | .float x => x.dataText

/-- A word or number or text. -/
def leafText : Json → List Char
  | null => ['n', 'u', 'l', 'l']
  | bool true => ['t', 'r', 'u', 'e']
  | bool false => ['f', 'a', 'l', 's', 'e']
  | number n => numberText n
  | text s => quote s
  | array _ => []
  | object _ => []

mutual
/-- The text of a value without blanks. -/
def render : Json → List Char
  | array items => '[' :: (renderItems items ++ [']'])
  | object members => '{' :: (renderMembers members ++ ['}'])
  | null => leafText null
  | bool b => leafText (bool b)
  | number n => leafText (number n)
  | text s => leafText (text s)

/-- Items with commas between them. -/
def renderItems : List Json → List Char
  | [] => []
  | [j] => render j
  | j :: rest => render j ++ ',' :: renderItems rest

/-- Members with commas between them. -/
def renderMembers : List (String × Json) → List Char
  | [] => []
  | [(k, j)] => quote k ++ ':' :: render j
  | (k, j) :: rest => quote k ++ ':' :: (render j ++ ',' :: renderMembers rest)
end

/-- The text of a value without blanks. -/
def compact (j : Json) : String := String.ofList j.render

/-- A line break and the blanks of a level. -/
def newLine (level : Nat) : List Char := '\n' :: List.replicate (2 * level) ' '

mutual
/-- The text of a value over several lines, at a level. -/
def renderLines (level : Nat) : Json → List Char
  | array [] => ['[', ']']
  | array (j :: rest) =>
    '[' :: (newLine (level + 1) ++ renderLines (level + 1) j ++ lineItems (level + 1) rest ++ newLine level ++ [']'])
  | object [] => ['{', '}']
  | object ((k, j) :: rest) =>
    '{' :: (newLine (level + 1) ++ quote k ++ ':' :: ' ' :: renderLines (level + 1) j ++
      lineMembers (level + 1) rest ++ newLine level ++ ['}'])
  | null => leafText null
  | bool b => leafText (bool b)
  | number n => leafText (number n)
  | text s => leafText (text s)

/-- The items after the first one. -/
def lineItems (level : Nat) : List Json → List Char
  | [] => []
  | j :: rest => ',' :: (newLine level ++ renderLines level j ++ lineItems level rest)

/-- The members after the first one. -/
def lineMembers (level : Nat) : List (String × Json) → List Char
  | [] => []
  | (k, j) :: rest => ',' :: (newLine level ++ quote k ++ ':' :: ' ' :: renderLines level j ++ lineMembers level rest)
end

/-- The text of a value over several lines. -/
def indented (j : Json) : String := String.ofList (renderLines 0 j)

end HostingClient.Json
