import HostingClient.Session.Profile

/-! # Accounts

What is sent to manage an account, and the keys of an account. -/

namespace HostingClient

/-- A new account. -/
structure RegisterUserRequest where
  /-- Always `basic` for an account with a password. -/
  provider : String
  name : String
  email : String
  password : String
deriving DecidableEq, Repr, Inhabited

/-- The fields of a new account. -/
def RegisterUserRequest.record : Record RegisterUserRequest where
  fields :=
    .cons (.required "provider" .text) <| .cons (.required "name" .text) <| .cons (.required "email" .text) <|
    .cons (.required "password" .text) .nil
  build := fun (provider, name, email, password, ()) => { provider, name, email, password }
  parts x := (x.provider, x.name, x.email, x.password, ())

/-- Credentials to be checked. -/
structure ValidateUserRequest where
  /-- The email address of the account. -/
  user : String
  password : String
deriving DecidableEq, Repr, Inhabited

/-- The fields of credentials. -/
def ValidateUserRequest.record : Record ValidateUserRequest where
  fields :=
    .cons (.required "user" .text) <| .cons (.required "password" .text) .nil
  build := fun (user, password, ()) => { user, password }
  parts x := (x.user, x.password, ())

/-- New data of an account. -/
structure UpdateUserRequest where
  name : String
  email : String
  password : String
deriving DecidableEq, Repr, Inhabited

/-- The fields of the new data of an account. -/
def UpdateUserRequest.record : Record UpdateUserRequest where
  fields :=
    .cons (.required "name" .text) <| .cons (.required "email" .text) <| .cons (.required "password" .text)
    .nil
  build := fun (name, email, password, ()) => { name, email, password }
  parts x := (x.name, x.email, x.password, ())

/-- What is known of a key. The key itself is shown once, when it is made. -/
structure ApiKey where
  keyId : String
  userId : String
  description : String
  createdAt : Time.Instant
  lastUsedAt : Option Time.Instant
deriving DecidableEq, Repr, Inhabited

/-- The fields of a key. -/
def ApiKey.record : Record ApiKey where
  fields :=
    .cons (.required "key_id" .text) <| .cons (.required "user_id" .text) <|
    .cons (.required "description" .text) <| .cons (.required "created_at" .timestamp) <|
    .cons (.open? "last_used_at" .timestamp) .nil
  build := fun (keyId, userId, description, createdAt, lastUsedAt, ()) =>
    { keyId, userId, description, createdAt, lastUsedAt }
  parts x := (x.keyId, x.userId, x.description, x.createdAt, x.lastUsedAt, ())

/-- A key to be made. -/
structure CreateApiKeyRequest where
  description : String
deriving DecidableEq, Repr, Inhabited

/-- The fields of a key to be made. -/
def CreateApiKeyRequest.record : Record CreateApiKeyRequest where
  fields :=
    .cons (.required "description" .text) .nil
  build v := ⟨v.1⟩
  parts x := (x.description, ())

end HostingClient
