import HostingClient.Json.Reader

/-! # Decoders

A decoder turns an outline into a value or gives the first fault in the order of the text. Values may nest
127 deep; what is skipped may nest without bound. A value that is already at hand is decoded through its own
outline, and differs from text in one point only: too many elements are then a matter of length. -/

namespace HostingClient

/-- Why a value cannot be decoded. -/
inductive DecodeFault where
  | unreadable (f : Json.SyntaxFault)
  | notTimestamp
  | wrongType
  | wrongValue
  | wrongLength
  | missingField (name : String)
  | duplicateField (name : String)
  | unknownVariant (name : String) (expected : List String)
deriving DecidableEq, Repr, Inhabited

namespace DecodeFault

/-- A list of names as a sentence gives it. -/
def oneOf : List String → String
  | [] => "there are no variants"
  | [a] => s!"expected `{a}`"
  | [a, b] => s!"expected `{a}` or `{b}`"
  | names => "expected one of " ++ ", ".intercalate (names.map fun n => s!"`{n}`")

/-- The wording of a fault. Faults of reading are named by their class. -/
def message : DecodeFault → String
  | unreadable .ended => "<json eof>"
  | unreadable .malformed => "<json syntax>"
  | notTimestamp => "<timestamp>"
  | wrongType => "<invalid type>"
  | wrongValue => "<invalid value>"
  | wrongLength => "<invalid length>"
  | missingField name => s!"missing field `{name}`"
  | duplicateField name => s!"duplicate field `{name}`"
  | unknownVariant name expected => s!"unknown variant `{name}`, {oneOf expected}"

/-- A fault of reading as a fault of decoding. -/
def lift {α : Type} : Except Json.SyntaxFault α → Except DecodeFault α
  | .ok a => .ok a
  | .error f => .error (.unreadable f)

end DecodeFault

/-- What a decoder knows of its place. -/
structure Place where
  /-- How many levels may still open. -/
  depth : Nat
  /-- What too many elements are. -/
  surplus : DecodeFault

namespace Place

/-- The outermost place of a text. -/
def ofText : Place := ⟨127, .unreadable .malformed⟩

/-- The outermost place of a value at hand. -/
def ofValue : Place := ⟨127, .wrongLength⟩

/-- One level further in. -/
def enter (p : Place) : Except DecodeFault Place :=
  match p.depth with
  | 0 => .error (.unreadable .malformed)
  | n + 1 => .ok { p with depth := n }

end Place

/-- A decoder of values of a type. -/
abbrev Decoder (α : Type) := Place → Json.Outline → Except DecodeFault α

namespace Decoder
variable {α β : Type}

/-- The fault of finding a value where another type is wanted. A leaf is read before its type is looked at. -/
def mismatch : Json.Outline → DecodeFault
  | .number (.error f) | .text (.error f) | .broken f _ => .unreadable f
  | _ => .wrongType

/-- A text. -/
def text : Decoder String := fun _ o =>
  match o with
  | .text (.ok s) => .ok s
  | o => .error (mismatch o)

/-- A truth value. -/
def flag : Decoder Bool := fun _ o =>
  match o with
  | .bool b => .ok b
  | o => .error (mismatch o)

/-- A natural number, written without fraction and exponent. -/
def natural : Decoder Nat := fun _ o =>
  match o with
  | .number (.ok (.int i)) => if 0 ≤ i then .ok i.toNat else .error .wrongValue
  | o => .error (mismatch o)

/-- A number. -/
def real : Decoder Number.Binary64 := fun _ o =>
  match o with
  | .number (.ok (.int i)) => .ok (Number.Binary64.ofInt i)
  | .number (.ok (.float x)) => .ok x
  | o => .error (mismatch o)

/-- A value or null. -/
def option (d : Decoder α) : Decoder (Option α) := fun p o =>
  match o with
  | .null => .ok none
  | o => (d p o).map some

/-- The value, changed by a function. -/
def map (f : α → β) (d : Decoder α) : Decoder β := fun p o => (d p o).map f

/-- Decodes items one after the other. -/
def items (d : Json.Outline → Except DecodeFault α) : List Json.Outline → Except DecodeFault (List α)
  | [] => .ok []
  | o :: rest => do
    let a ← d o
    let as ← items d rest
    .ok (a :: as)

/-- A list. -/
def list (d : Decoder α) : Decoder (List α) := fun p o =>
  match o with
  | .array os stop => do
    let p ← p.enter
    let as ← items (d p) os
    DecodeFault.lift (Json.finish stop)
    .ok as
  | o => .error (mismatch o)

/-- Decodes members one after the other. -/
def members (d : Json.Outline → Except DecodeFault α) :
    List (Json.Key × Json.Outline) → Except DecodeFault (List (String × α))
  | [] => .ok []
  | (k, o) :: rest => do
    let k ← DecodeFault.lift k.read
    let a ← d o
    let as ← members d rest
    .ok ((k, a) :: as)

/-- A dictionary. The last member with a name counts. -/
def dict (d : Decoder α) : Decoder (Dict α) := fun p o =>
  match o with
  | .object os stop => do
    let p ← p.enter
    let as ← members (d p) os
    DecodeFault.lift (Json.finish stop)
    .ok (Dict.ofList as)
  | o => .error (mismatch o)

mutual
/-- Decodes any value; the members of an object end up sorted, the last one with a name counts. -/
def anyValue : Nat → Json.Outline → Except DecodeFault Json
  | _, .null => .ok .null
  | _, .bool b => .ok (.bool b)
  | _, .number n => (DecodeFault.lift n).map Json.number
  | _, .text s => (DecodeFault.lift s).map Json.text
  | depth, .array os stop =>
    match depth with
    | 0 => .error (.unreadable .malformed)
    | depth + 1 => do
      let items ← anyItems depth os
      DecodeFault.lift (Json.finish stop)
      .ok (.array items)
  | depth, .object os stop =>
    match depth with
    | 0 => .error (.unreadable .malformed)
    | depth + 1 => do
      let members ← anyMembers depth [] os
      DecodeFault.lift (Json.finish stop)
      .ok (.object members)
  | _, .broken f _ => .error (.unreadable f)

/-- Decodes items of any kind. -/
def anyItems : Nat → List Json.Outline → Except DecodeFault (List Json)
  | _, [] => .ok []
  | depth, o :: rest => do
    let j ← anyValue depth o
    let js ← anyItems depth rest
    .ok (j :: js)

/-- Decodes members of any kind and puts them to those already decoded. -/
def anyMembers : Nat → List (String × Json) → List (Json.Key × Json.Outline) →
    Except DecodeFault (List (String × Json))
  | _, done, [] => .ok done
  | depth, done, (k, o) :: rest => do
    let k ← DecodeFault.lift k.read
    let j ← anyValue depth o
    anyMembers depth (insertEntry k j done) rest
end

/-- Any value. -/
def any : Decoder Json := fun p o => anyValue p.depth o

/-- The value that a table has for a name. -/
def pick (table : List (String × α)) (name : String) : Except DecodeFault α :=
  match table.lookup name with
  | some a => .ok a
  | none => .error (.unknownVariant name (table.map (·.1)))

/-- One of some cases, with the name of the case as the only member of an object. `bare` decodes the name alone,
`inner` what belongs to the name. -/
def tagged (bare : String → Except DecodeFault α) (inner : String → Except DecodeFault (Decoder α)) : Decoder α :=
  fun p o =>
    match o with
    | .text (.ok s) => bare s
    | .text (.error f) | .broken f _ => .error (.unreadable f)
    | .object os stop => do
      let p ← p.enter
      match os with
      | [] => .error (.unreadable (stop.getD .malformed))
      | (.misplaced none, _) :: _ => .error .wrongType
      | (.misplaced (some f), _) :: _ => .error (.unreadable f)
      | (k, value) :: rest => do
        let name ← DecodeFault.lift k.read
        let d ← inner name
        let a ← d p value
        match rest with
        | [] => do
          DecodeFault.lift (Json.finish stop)
          .ok a
        | _ :: _ => .error (.unreadable .malformed)
    | _ => .error (.unreadable .malformed)

/-- One of some named values: its name, or an object with the name as only member and null as value. -/
def variant (names : List (String × α)) : Decoder α :=
  tagged (pick names) fun name => do
    let a ← pick names name
    .ok fun _ o =>
      match o with
      | .null => .ok a
      | o => .error (mismatch o)

/-- Decodes a document: the value first, then the text after it must be blank. -/
def document (d : Decoder α) (doc : Json.Document) : Except DecodeFault α := do
  let a ← d .ofText doc.value
  if doc.surplus then .error (.unreadable .malformed) else .ok a

/-- Decodes a text. -/
def run (d : Decoder α) (s : String) : Except DecodeFault α :=
  d.document (Json.readDocument (s.toList.map Text.Symbol.char))

/-- Decodes bytes. -/
def runBytes (d : Decoder α) (bytes : List UInt8) : Except DecodeFault α :=
  d.document (Json.readDocument (Text.Utf8.symbols bytes))

/-- Decodes a value at hand. -/
def ofValue (d : Decoder α) (j : Json) : Except DecodeFault α := d .ofValue j.outline

end Decoder

end HostingClient
