import HostingClient.Number.Shortest
import HostingClient.Dict

/-! # JSON values

A JSON value as the program holds it. Numbers that fit a 64-bit word, signed or not, are integers; all
others are binary64. The members of an object are a list: a value that was read from text has them sorted by
name without repeats, a value that is about to be written has them in the order of writing. -/

namespace HostingClient

/-- A JSON number. -/
inductive Number.Value where
  | int (i : Int)
  | float (x : Number.Binary64)
deriving DecidableEq, Repr, Inhabited

/-- A JSON value. -/
inductive Json where
  | null
  | bool (b : Bool)
  | number (n : Number.Value)
  | text (s : String)
  | array (items : List Json)
  | object (members : List (String × Json))
deriving Repr, Inhabited

namespace Json

/-- The largest integer that is kept as one. -/
def greatestWord : Nat := 18446744073709551615

/-- The least integer that is kept as one. -/
def leastWord : Int := -9223372036854775808

/-- An integer as a JSON number. -/
def ofInt (i : Int) : Json := .number (.int i)

/-- A natural number as a JSON number. -/
def ofNat (n : Nat) : Json := .number (.int n)

/-- A dictionary as an object. -/
def ofDict {α : Type} (f : α → Json) (d : Dict α) : Json := .object (d.entries.map fun e => (e.1, f e.2))

/-- An optional value, null if there is none. -/
def ofOption {α : Type} (f : α → Json) : Option α → Json
  | some a => f a
  | none => .null

end Json

end HostingClient
