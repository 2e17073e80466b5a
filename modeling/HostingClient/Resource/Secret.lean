import HostingClient.Time.Timestamp

/-! # Secrets

The secrets of a space. Their values are fetched apart. -/

namespace HostingClient

/-- A secret without its value. -/
structure SpaceSecret where
  spaceId : String
  key : String
  description : String
  createdAt : Time.Instant
  updatedAt : Time.Instant
deriving DecidableEq, Repr, Inhabited

/-- The fields of a secret. -/
def SpaceSecret.record : Record SpaceSecret where
  fields :=
    .cons (.required "space_id" .text) <| .cons (.required "key" .text) <|
    .cons (.defaulted "description" .text "") <| .cons (.required "created_at" .timestamp) <|
    .cons (.required "updated_at" .timestamp) .nil
  build := fun (spaceId, key, description, createdAt, updatedAt, ()) =>
    { spaceId, key, description, createdAt, updatedAt }
  parts x := (x.spaceId, x.key, x.description, x.createdAt, x.updatedAt, ())

/-- A secret to be stored. -/
structure CreateSecretRequest where
  key : String
  value : String
  description : String
deriving DecidableEq, Repr, Inhabited

/-- The fields of a secret to be stored. -/
def CreateSecretRequest.record : Record CreateSecretRequest where
  fields :=
    .cons (.required "key" .text) <| .cons (.required "value" .text) <| .cons (.required "description" .text)
    .nil
  build := fun (key, value, description, ()) => { key, value, description }
  parts x := (x.key, x.value, x.description, ())

/-- The new form of a secret. -/
structure UpdateSecretRequest where
  value : String
  description : String
deriving DecidableEq, Repr, Inhabited

/-- The fields of the new form of a secret. -/
def UpdateSecretRequest.record : Record UpdateSecretRequest where
  fields :=
    .cons (.required "value" .text) <| .cons (.required "description" .text) .nil
  build := fun (value, description, ()) => { value, description }
  parts x := (x.value, x.description, ())

end HostingClient
