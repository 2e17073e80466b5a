import HostingClient.Json.Decoder

/-! # Records

A record type is described once, as the list of its fields, and both its decoder and its encoder come from
the description. A record is written as an object. It is read from an object with the fields in any order
among members that are not known, or from an array of the fields in the order of the description. -/

namespace HostingClient

/-- How values of a type are read and written. -/
structure Codec (α : Type) where
  decode : Decoder α
  encode : α → Json

namespace Codec
variable {α : Type}

def text : Codec String := ⟨Decoder.text, Json.text⟩

def flag : Codec Bool := ⟨Decoder.flag, Json.bool⟩

def natural : Codec Nat := ⟨Decoder.natural, Json.ofNat⟩

def real : Codec Number.Binary64 := ⟨Decoder.real, fun x => .number (.float x)⟩

def any : Codec Json := ⟨Decoder.any, id⟩

def option (c : Codec α) : Codec (Option α) := ⟨Decoder.option c.decode, Json.ofOption c.encode⟩

def list (c : Codec α) : Codec (List α) := ⟨Decoder.list c.decode, fun as => .array (as.map c.encode)⟩

/-- A dictionary. Its members are written in the order of their names, which stands for every order in which they may
be written: they are read as the same dictionary in any (`Decoder.dict_perm`). -/
def dict (c : Codec α) : Codec (Dict α) := ⟨Decoder.dict c.decode, Json.ofDict c.encode⟩

/-- Some named values, each written as its name. -/
def variant [DecidableEq α] (names : List (String × α)) : Codec α where
  decode := Decoder.variant names
  encode a := .text (((names.find? fun e => e.2 = a).map (·.1)).getD "")

end Codec

/-- A field of a record. -/
structure Field (α : Type) where
  name : String
  codec : Codec α
  /-- The value of the field if an object does not have it. -/
  absent : Option α
  /-- The value of the field if an array ends before it. -/
  beyond : Option α
  /-- The values that are not written. -/
  hidden : α → Bool

namespace Field
variable {α : Type}

/-- A field that must be there. -/
def required (name : String) (c : Codec α) : Field α := ⟨name, c, none, none, fun _ => false⟩

/-- A field with a value of its own when it is missing. -/
def defaulted (name : String) (c : Codec α) (value : α) : Field α := ⟨name, c, some value, some value, fun _ => false⟩

/-- A field that need not be there in an object. -/
def optional (name : String) (c : Codec α) : Field (Option α) := ⟨name, c.option, some none, none, fun _ => false⟩

/-- A field that need not be there. -/
def open? (name : String) (c : Codec α) : Field (Option α) := defaulted name c.option none

/-- The field, left out when it is unset. -/
def hideUnset (f : Field (Option α)) : Field (Option α) := { f with hidden := Option.isNone }

end Field

/-- The fields of a record, with the type of the tuple of their values. -/
inductive Fields : Type → Type 1 where
  | nil : Fields Unit
  | cons {α β : Type} (f : Field α) (rest : Fields β) : Fields (α × β)

namespace Fields

/-- The values of the fields as far as they have been read. -/
def Slots : {τ : Type} → Fields τ → Type
  | _, nil => Unit
  | _, cons (α := α) _ rest => Option α × rest.Slots

/-- No field has been read. -/
def noSlots : {τ : Type} → (fs : Fields τ) → fs.Slots
  | _, nil => ()
  | _, cons _ rest => (none, rest.noSlots)

/-- The names of the fields. -/
def names : {τ : Type} → Fields τ → List String
  | _, nil => []
  | _, cons f rest => f.name :: rest.names

/-- Reads the value of a field; none if there is no field of that name. -/
def fill (p : Place) (name : String) (o : Json.Outline) :
    {τ : Type} → (fs : Fields τ) → fs.Slots → Option (Except DecodeFault fs.Slots)
  | _, nil, _ => none
  | _, cons f rest, slots =>
    if name = f.name then
      some (match slots.1 with
        | some _ => .error (.duplicateField name)
        | none => (f.codec.decode p o).map fun a => (some a, slots.2))
    else (rest.fill p name o slots.2).map fun r => r.map fun later => (slots.1, later)

/-- Reads the members of an object in the order of the text. -/
def fillAll (p : Place) {τ : Type} (fs : Fields τ) :
    fs.Slots → List (Json.Key × Json.Outline) → Except DecodeFault fs.Slots
  | slots, [] => .ok slots
  | slots, (k, o) :: rest => do
    let name ← DecodeFault.lift k.read
    match fs.fill p name o slots with
    | some r => do
      let slots ← r
      fillAll p fs slots rest
    | none => do
      DecodeFault.lift o.skip
      fillAll p fs slots rest

/-- The values of the fields, once an object has been read. -/
def close : {τ : Type} → (fs : Fields τ) → fs.Slots → Except DecodeFault τ
  | _, nil, _ => .ok ()
  | _, cons f rest, slots => do
    let a ← match slots.1, f.absent with
      | some a, _ => .ok a
      | none, some a => .ok a
      | none, none => .error (.missingField f.name)
    let as ← rest.close slots.2
    .ok (a, as)

/-- Reads the fields from the items of an array. -/
def ofItems (p : Place) (stop : Option Json.SyntaxFault) :
    {τ : Type} → (fs : Fields τ) → List Json.Outline → Except DecodeFault τ
  | _, nil, [] => (DecodeFault.lift (Json.finish stop)).map fun _ => ()
  | _, nil, _ :: _ => .error p.surplus
  | _, cons f rest, o :: os => do
    let a ← f.codec.decode p o
    let as ← rest.ofItems p stop os
    .ok (a, as)
  | _, cons f rest, [] => do
    DecodeFault.lift (Json.finish stop)
    match f.beyond with
    | none => .error .wrongLength
    | some a => do
      let as ← rest.ofItems p stop []
      .ok (a, as)

/-- The members of an object that holds the fields. -/
def members : {τ : Type} → Fields τ → τ → List (String × Json)
  | _, nil, _ => []
  | _, cons f rest, (a, as) =>
    if f.hidden a then rest.members as else (f.name, f.codec.encode a) :: rest.members as

end Fields

/-- A record type: its fields, and how a record is built from their values and taken apart. -/
structure Record (α : Type) where
  {τ : Type}
  fields : Fields τ
  build : τ → α
  parts : α → τ

namespace Record
variable {α : Type}

/-- Reads a record. -/
def decode (r : Record α) : Decoder α := fun p o =>
  match o with
  | .array items stop => do
    let p ← p.enter
    (r.fields.ofItems p stop items).map r.build
  | .object members stop => do
    let p ← p.enter
    let slots ← r.fields.fillAll p r.fields.noSlots members
    DecodeFault.lift (Json.finish stop)
    (r.fields.close slots).map r.build
  | o => .error (Decoder.mismatch o)

/-- Writes a record. -/
def encode (r : Record α) (a : α) : Json := .object (r.fields.members (r.parts a))

/-- How a record is read and written. -/
def codec (r : Record α) : Codec α := ⟨r.decode, r.encode⟩

end Record

end HostingClient
