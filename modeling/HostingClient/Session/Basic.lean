import HostingClient.Session.Profile
import HostingClient.Session.Claims
import HostingClient.Storage.Basic
import HostingClient.Json.Printer
import HostingClient.Text.Quoted

/-! # Sessions

A session holds the token and the user of a login. What is in memory counts; every change is written to a storage
as well, so that a later session can be restored from it, but a storage that fails never makes a change fail.

Whether a session is authenticated is found out in two steps, since the identity provider is asked between them:
`check` looks at the token, and `settle` takes the answer. The session may have changed in the meantime, so the
answer only clears it if it still holds the token that was asked about. -/

namespace HostingClient

/-- The token and the user of a login. -/
@[ext]
structure SessionState where
  token : Option String
  user : Option Profile
deriving DecidableEq, Repr, Inhabited

namespace SessionState

/-- No login. -/
def none : SessionState := ⟨.none, .none⟩

/-- The fields of a session in data. -/
def record : Record SessionState where
  fields := .cons (.optional "token" .text) <| .cons (.optional "user" Profile.record.codec) .nil
  build := fun (token, user, ()) => { token, user }
  parts s := (s.token, s.user, ())

end SessionState

/-- A session over a storage, with the time at which it is looked at. -/
structure Session (σ : Type) where
  state : SessionState
  storage : σ
  now : Time.Instant

namespace Session

/-- The key of the token. -/
def tokenKey : String := "auth_token"

/-- The key of the user. -/
def userKey : String := "current_user"

variable {σ : Type}

/-- The nanoseconds that the token is still valid. -/
def ttl (s : Session σ) : Nat := Token.ttl s.state.token s.now

/-- A session as a log shows it. -/
def summary (s : Session σ) : String :=
  let user := match s.state.user with
    | some u => "Some(" ++ Text.Quoted.encode u.id ++ ")"
    | none => "None"
  "SessionStore \x7b has_token: " ++ (if s.state.token.isSome then "true" else "false") ++ ", user: " ++ user ++
    ", .. \x7d"

variable [Storage σ]

/-- A session without login. Nothing is read from the storage. -/
def new (storage : σ) (now : Time.Instant) : Session σ := ⟨.none, storage, now⟩

/-- Writes a value to the storage, or removes it. A failure is ignored. -/
def persist (key : String) (value : Option String) (s : Session σ) : Session σ :=
  match value with
  | some v => { s with storage := (Storage.set key v s.storage).2 }
  | none => { s with storage := (Storage.remove key s.storage).2 }

/-- Takes a token. -/
def setToken (token : String) (s : Session σ) : Session σ :=
  let s := s.persist tokenKey (some token)
  { s with state.token := some token }

/-- Drops the token and keeps the user. -/
def clearToken (s : Session σ) : Session σ :=
  let s := s.persist tokenKey none
  { s with state.token := none }

/-- How a user is stored. -/
def storedUser (user : Profile) : String := (Profile.record.encode user).compact

/-- Takes a user. -/
def setUser (user : Profile) (s : Session σ) : Session σ :=
  let s := s.persist userKey (some (storedUser user))
  { s with state.user := some user }

/-- Logs out: drops the user and the token. -/
def clearUser (s : Session σ) : Session σ :=
  let s := s.persist userKey none
  let s := s.persist tokenKey none
  { s with state := .none }

/-- Logs out, if the session still holds a token. -/
def clearIfToken (token : String) (s : Session σ) : Session σ :=
  if s.state.token = some token then s.clearUser else s

/-- The text under a key, none if it cannot be read. -/
def readStored (key : String) (s : Session σ) : Option String × Session σ :=
  match Storage.get key s.storage with
  | (.ok value, storage) => (value, { s with storage })
  | (.error _, storage) => (none, { s with storage })

/-- Takes the token from the storage. An empty one counts as none. -/
def loadToken (s : Session σ) : Option String × Session σ :=
  let (value, s) := s.readStored tokenKey
  let token := value.filter (· ≠ "")
  (token, { s with state.token := token })

/-- Takes the user from the storage. One that cannot be decoded counts as none. -/
def loadUser (s : Session σ) : Option Profile × Session σ :=
  let (value, s) := s.readStored userKey
  let user := value.bind fun text => (Profile.record.decode.run text).toOption
  (user, { s with state.user := user })

/-- A session with the login that the storage holds. -/
def restore (storage : σ) (now : Time.Instant) : Session σ := (new storage now).loadToken.2.loadUser.2

/-- What looking at the token tells. -/
inductive Check (σ : Type) where
  /-- The session is not authenticated. -/
  | denied (s : Session σ)
  /-- The identity provider has to be asked about a token. -/
  | ask (token : String)

/-- Looks at the token. One that has expired is dropped together with the user. -/
def check (s : Session σ) : Check σ :=
  match s.state.token with
  | none => .denied s
  | some token => if Token.ttl (some token) s.now = 0 then .denied (s.clearIfToken token) else .ask token

/-- Takes the answer of the identity provider about a token: whether it accepted the token. -/
def settle (token : String) (accepted : Bool) (s : Session σ) : Bool × Session σ :=
  if accepted then (true, s) else (false, s.clearIfToken token)

end Session

/-- What a validator answers about a token. -/
inductive Verdict where
  | accepted
  | rejected
  /-- The token could not be asked about. -/
  | failed
deriving DecidableEq, Repr, Inhabited

/-- A validator answers about a token, and may change the session before it does. -/
abbrev Validator (σ : Type) := String → Session σ → Verdict × Session σ

/-- Whether a session is authenticated, with the tokens that the validator was asked about. -/
def Session.isAuthenticated {σ : Type} [Storage σ] (validator : Validator σ) (s : Session σ) :
    Bool × List String × Session σ :=
  match s.check with
  | .denied s => (false, [], s)
  | .ask token =>
    let (verdict, s) := validator token s
    let (answer, s) := s.settle token (verdict = .accepted)
    (answer, [token], s)

end HostingClient
