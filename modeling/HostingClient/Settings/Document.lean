import HostingClient.Number.Digit
import HostingClient.Number.Real
import HostingClient.Json.Basic

/-! # Values of settings

What a file of settings holds, whatever its format, and how it is taken as a number or a text. Both are generous: a
number may be written as a text, a truth value counts as a number, and a number counts as a text. -/

namespace HostingClient

/-- A value in a file of settings. -/
inductive Document where
  | nothing
  | flag (b : Bool)
  | integer (i : Int)
  | real (x : Number.Real)
  | text (s : String)
  | list (items : List Document)
  | table (entries : List (String × Document))
deriving Repr, Inhabited

namespace Document

/-- The words for the truth values, in lower case. -/
def words : List (String × Nat) := [("true", 1), ("on", 1), ("yes", 1), ("false", 0), ("off", 0), ("no", 0)]

/-- Reads a natural number that fits a word. A plus sign may stand before its digits. -/
def readNatural (s : List Char) : Option Nat :=
  let ds := match s with
    | '+' :: rest => rest
    | _ => s
  if ds.isEmpty || !(ds.all Char.isDigit) then none
  else
    let n := Number.Real.ofDigits ds
    if n ≤ Json.greatestWord then some n else none

/-- Whether an integer fits a signed word. -/
def fitsWord (i : Int) : Bool := Json.leastWord ≤ i && i < -Json.leastWord

/-- A value as a natural number. -/
def natural? : Document → Option Nat
  | integer i => if 0 ≤ i then some i.toNat else none
  | real x => some (x.toNatural Json.greatestWord)
  | flag b => some (if b then 1 else 0)
  | text s =>
    match words.lookup (String.ofList (s.toList.map Char.toLower)) with
    | some n => some n
    | none => readNatural s.toList
  | nothing | list _ | table _ => none

/-- A value as a text. -/
def text? : Document → Option String
  | text s => some s
  | flag b => some (if b then "true" else "false")
  | integer i => some (String.ofList (if i < 0 then '-' :: Number.digitsOf i.natAbs else Number.digitsOf i.natAbs))
  | real x => some (String.ofList x.text)
  | nothing | list _ | table _ => none

/-- An integer; a number with a fraction stands for one that does not fit a signed word. -/
def ofInteger (i : Int) : Document :=
  if fitsWord i then integer i
  else match Number.Binary64.ofDecimal (i < 0) i.natAbs 0 with
    | some x => real (.finite x)
    | none => real (.infinite (i < 0))

mutual
/-- A JSON value. -/
def ofJson : Json → Document
  | .null => nothing
  | .bool b => flag b
  | .number (.int i) => ofInteger i
  | .number (.float x) => real (.finite x)
  | .text s => text s
  | .array items => list (ofItems items)
  | .object members => table (ofMembers members)

/-- The items of a JSON array. -/
def ofItems : List Json → List Document
  | [] => []
  | j :: rest => ofJson j :: ofItems rest

/-- The members of a JSON object. -/
def ofMembers : List (String × Json) → List (String × Document)
  | [] => []
  | (k, j) :: rest => (k, ofJson j) :: ofMembers rest
end

end Document

end HostingClient
