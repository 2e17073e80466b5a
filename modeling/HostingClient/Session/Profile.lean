import HostingClient.Time.Timestamp

/-! # Profiles

The identity of a user as the identity provider gives it. -/

namespace HostingClient

/-- A user. -/
structure Profile where
  id : String
  /-- Where the account comes from. -/
  provider : String
  name : String
  email : String
  verified : Bool
  /-- Whether the account has a password. -/
  password : Bool
  roles : List String
  createdAt : Time.Instant
  isActive : Bool
  metadata : Dict String
deriving DecidableEq, Repr, Inhabited

namespace Profile

/-- Whether a user administers the platform. -/
def isAdmin (p : Profile) : Bool := p.roles.contains "admin"

/-- Whether a user may use what needs a login. -/
def isValid (p : Profile) : Bool := p.isActive && p.verified

/-- The fields of a profile. -/
def record : Record Profile where
  fields :=
    .cons (.required "id" .text) <| .cons (.required "provider" .text) <| .cons (.required "name" .text) <|
    .cons (.required "email" .text) <| .cons (.required "verified" .flag) <|
    .cons (.defaulted "password" .flag false) <| .cons (.defaulted "roles" (.list .text) []) <|
    .cons (.required "created_at" .timestamp) <| .cons (.required "is_active" .flag) <|
    .cons (.defaulted "metadata" (.dict .text) .empty) .nil
  build := fun (id, provider, name, email, verified, password, roles, createdAt, isActive, metadata, ()) =>
    { id, provider, name, email, verified, password, roles, createdAt, isActive, metadata }
  parts p :=
    (p.id, p.provider, p.name, p.email, p.verified, p.password, p.roles, p.createdAt, p.isActive, p.metadata, ())

end Profile

end HostingClient
