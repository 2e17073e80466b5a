import HostingClient.Json.Record

/-! # Failures on this side

What can go wrong without a server: the configuration, the storage, data that cannot be read, and a token
about which the identity provider could not be asked. -/

namespace HostingClient

/-- A part of the program that fails. -/
inductive Failure.Kind where
  | config
  | storage
  | serialization
  | validation
deriving DecidableEq, Repr, Inhabited

/-- A failure and its explanation. -/
structure Failure where
  kind : Failure.Kind
  message : String
deriving DecidableEq, Repr, Inhabited

namespace Failure

/-- The name of a kind in data. -/
def Kind.name : Kind → String
  | config => "InvalidConfig"
  | storage => "Storage"
  | serialization => "Serialization"
  | validation => "Validation"

/-- What a display text starts with. -/
def Kind.heading : Kind → String
  | config => "Invalid configuration: "
  | storage => "Storage operation failed: "
  | serialization => "Serialization error: "
  | validation => "Token validation failed: "

/-- The text that is shown for a failure. -/
def display (f : Failure) : String := f.kind.heading ++ f.message

/-- A failure of the device under a storage. -/
def io : Failure := ⟨.storage, "<io>"⟩

/-- A failure to decode data. -/
def ofDecode (f : DecodeFault) : Failure := ⟨.serialization, f.message⟩

/-- The kinds with their names. -/
def kinds : List (String × Kind) :=
  [Kind.config, Kind.storage, Kind.serialization, Kind.validation].map fun k => (k.name, k)

/-- What is kept of a failure under the name of its kind. -/
def record (kind : Kind) : Record Failure where
  fields := .cons (.required "message" .text) .nil
  build v := ⟨kind, v.1⟩
  parts f := (f.message, ())

/-- Failures in data: an object with the name of the kind as its only member. -/
def codec : Codec Failure where
  decode := Decoder.tagged
    (fun name => do let _ ← Decoder.pick kinds name; .error .wrongType)
    fun name => do
      let kind ← Decoder.pick kinds name
      .ok (record kind).decode
  encode f := .object [(f.kind.name, (record f.kind).encode f)]

end Failure

end HostingClient
