import HostingClient.Json.Leaf

/-! # Reading JSON text

Reading never fails: it gives the outline of the value at the start of a text and what follows it. Recursion
goes by a bound on the number of values that can still begin, for which the length of the text is enough,
since each value takes at least one symbol. -/

namespace HostingClient.Json

open HostingClient.Text

/-- The blanks of JSON. -/
def isGap (s : Symbol) : Bool := s = .char ' ' || s = .char '\t' || s = .char '\n' || s = .char '\r'

/-- Drops blanks. -/
def skipGaps (s : List Symbol) : List Symbol := s.dropWhile isGap

/-- The fault of reading a text where something else stands, if it is not only of the wrong kind. -/
def misplacedFault : List Symbol → Option SyntaxFault
  | .char c :: rest =>
    if c = '[' ∨ c = '{' then none
    else match (readLeaf (.char c :: rest)).1 with
      | .broken f _ => some f
      | .number (.error f) => some f
      | _ => none
  | _ => some .malformed

mutual
/-- Reads a value. -/
def readValue : Nat → List Symbol → Outline × Option (List Symbol)
  | 0, _ => (.broken .malformed .malformed, none)
  | fuel + 1, s =>
    match skipGaps s with
    | .char '[' :: rest =>
      match skipGaps rest with
      | [] => (.array [] (some .ended), none)
      | .char ']' :: rest' => (.array [] none, some rest')
      | rest' =>
        let (items, stop, after) := readItems fuel rest'
        (.array items stop, after)
    | .char '{' :: rest =>
      match skipGaps rest with
      | [] => (.object [] (some .ended), none)
      | .char '}' :: rest' => (.object [] none, some rest')
      | rest' =>
        let (members, stop, after) := readMembers fuel rest'
        (.object members stop, after)
    | s' => readLeaf s'

/-- Reads an item and those that follow it. -/
def readItems : Nat → List Symbol → List Outline × Option SyntaxFault × Option (List Symbol)
  | 0, _ => ([], some .malformed, none)
  | fuel + 1, s =>
    match readValue fuel s with
    | (item, none) => ([item], some .malformed, none)
    | (item, some rest) =>
      match skipGaps rest with
      | [] => ([item], some .ended, none)
      | .char ']' :: rest' => ([item], none, some rest')
      | .char ',' :: rest' =>
        match skipGaps rest' with
        | .char ']' :: _ => ([item, .broken .malformed .malformed], some .malformed, none)
        | rest'' =>
          let (items, stop, after) := readItems fuel rest''
          (item :: items, stop, after)
      | _ => ([item], some .malformed, none)

/-- Reads a member and those that follow it. -/
def readMembers : Nat → List Symbol → List (Key × Outline) × Option SyntaxFault × Option (List Symbol)
  | 0, _ => ([], some .malformed, none)
  | fuel + 1, s =>
    match s with
    | [] => ([(.broken .ended .ended, .null)], some .ended, none)
    | .char '"' :: rest =>
      match readKey rest with
      | (key, none) => ([(key, .null)], some .malformed, none)
      | (key, some rest) =>
        match skipGaps rest with
        | [] => ([(key, .broken .ended .ended)], some .ended, none)
        | .char ':' :: rest' =>
          match readValue fuel rest' with
          | (value, none) => ([(key, value)], some .malformed, none)
          | (value, some rest'') =>
            match skipGaps rest'' with
            | [] => ([(key, value)], some .ended, none)
            | .char '}' :: after => ([(key, value)], none, some after)
            | .char ',' :: next =>
              let (members, stop, after) := readMembers fuel (skipGaps next)
              ((key, value) :: members, stop, after)
            | _ => ([(key, value)], some .malformed, none)
        | _ => ([(key, .broken .malformed .malformed)], some .malformed, none)
    | s => ([(.misplaced (misplacedFault s), .null)], some .malformed, none)
end

/-- A text read as one value. -/
structure Document where
  value : Outline
  /-- Whether more than blanks follows the value. -/
  surplus : Bool

/-- Reads a text as one value. -/
def readDocument (s : List Symbol) : Document :=
  match readValue (2 * s.length + 2) s with
  | (value, none) => ⟨value, false⟩
  | (value, some rest) => ⟨value, !(skipGaps rest).isEmpty⟩

end HostingClient.Json
