import HostingClient.Client.Catalogue
import HostingClient.Codec.Base64
import HostingClient.Notification
import HostingClient.Session.Basic
import HostingClient.Settings.Basic

/-! # The client

A client holds settings that are in order. Its calls act on their surroundings: the session, the queue of
notifications if there is one, and the other side, with all requests that were sent to it. Every error of a call is
reported to the queue before the caller gets it. -/

namespace HostingClient

/-- A client: its settings, whose addresses do not end in slashes. -/
structure Client where
  settings : Settings
deriving DecidableEq, Repr, Inhabited

/-- What the calls of a client act on. -/
structure Surroundings (σ : Type) where
  session : Session σ
  queue : Option NotificationQueue
  peer : Peer
  /-- The requests that were handed to the transport, each with what came back for it, in the order in which they were
  handed over. Further requests that the transport makes for one of them, to follow a redirection, are not listed. -/
  exchanges : List Exchange

/-- A call: an error or a result, and what becomes of the surroundings. -/
abbrev Action (σ α : Type) := ExceptT ClientError (StateM (Surroundings σ)) α

namespace Action
variable {σ α : Type}

/-- A change of the session. -/
def onSession (f : Session σ → Session σ) : Action σ Unit := modify fun s => { s with session := f s.session }

/-- Reports an error and ends the call with it. -/
def fail (e : ClientError) : Action σ α := do
  modify fun s => { s with queue := s.queue.map (· ++ [Notification.error e.display]) }
  throw e

/-- A result that may be an error, which is reported then. -/
def ofExcept : Except ClientError α → Action σ α
  | .ok a => pure a
  | .error e => fail e

end Action

/-! ### Building -/

/-- What a client is built from. -/
structure ClientBuilder (σ : Type) where
  settings : Settings
  /-- A key in place of the one in the settings. -/
  apiKey : Option String
  session : Option (Session σ)

namespace ClientBuilder
variable {σ : Type}

/-- The settings of the client. -/
def effective (b : ClientBuilder σ) : Settings :=
  match b.apiKey with
  | some key => { b.settings with apiKey := some key }
  | none => b.settings

/-- Settings whose addresses do not end in slashes. -/
def trimmed (s : Settings) : Settings :=
  { s with
    coreUrl := Text.trimSlashes s.coreUrl
    identityUrl := Text.trimSlashes s.identityUrl
    analyticsUrl := Text.trimSlashes s.analyticsUrl
    storageUrl := Text.trimSlashes s.storageUrl }

/-- A client and its session, if the settings are in order and there is a session. -/
def build (b : ClientBuilder σ) : Except ClientError (Client × Session σ) := do
  let settings := b.effective
  match settings.validate with
  | .error d => .error (.configuration d.failure.display)
  | .ok () =>
    match b.session with
    | none => .error (.configuration "session is required")
    | some session =>
      if isHeaderText settings.userAgent then .ok (⟨trimmed settings⟩, session)
      else .error (.request (.unsendable none))

end ClientBuilder

/-! ### Requests -/

namespace Client
variable {σ α : Type}

/-- The address of a service. -/
def baseUrl (c : Client) : Service → String
  | .core => c.settings.coreUrl
  | .identity => c.settings.identityUrl
  | .analytics => c.settings.analyticsUrl
  | .storage => c.settings.storageUrl

/-- A header value with a token. -/
def bearer (token : String) : String := "Bearer " ++ token

/-- A header value with a user and a password. -/
def basic (user password : List Char) : String :=
  "Basic " ++ String.ofList (Codec.Base64.encodePadded .standard (Text.Utf8.encode (user ++ ':' :: password)))

/-- The header value of a credential, given the token of the session. -/
def authorization (c : Client) (token : Option String) : Credential → Option String
  | .none => none
  | .session => token.map bearer
  | .bearer t => some (bearer t)
  | .apiKey => c.settings.apiKey
  | .basic user password => some (basic user.toList password.toList)

/-- The header value of the user and password in an address, and the address without them. A name that is not UTF-8
stays where it is, and a password that is not counts as none. -/
def takeUser (u : Url) : Option String × Url :=
  match u.authority with
  | none => (none, u)
  | some a =>
    match Text.Utf8.decode? (Codec.Percent.decode a.user.name) with
    | none => (none, u)
    | some name =>
      let password := (Text.Utf8.decode? (Codec.Percent.decode a.user.password)).getD []
      if name.isEmpty && password.isEmpty then (none, u)
      else (some (basic name password), { u with authority := some { a with user := .none } })

/-- Whether a host can be named in a request. -/
def isSendableHost (u : Url) : Bool :=
  match u.authority with
  | some a => a.host.text.all fun c => !(['"', '\x60', '\x7b', '\x7d'].contains c)
  | none => false

/-- Whether an address has one of the schemes of requests. -/
def isWebScheme (u : Url) : Bool := u.scheme = ['h', 't', 't', 'p'] || u.scheme = ['h', 't', 't', 'p', 's']

/-- The most bytes that the address of a request may have. -/
def greatestAddress : Nat := 65534

/-- Whether requests can go to an address. -/
def isSendable (u : Url) : Bool := isWebScheme u && isSendableHost u && u.text.utf8ByteSize ≤ greatestAddress

/-- The address of a call. -/
def address (c : Client) (e : Endpoint α) : Except RequestFault Url :=
  match Url.read (c.baseUrl e.service ++ String.ofList (pathText e.path)) with
  | .error _ => .error (.unsendable none)
  | .ok u => if u.hasHost then .ok u else .error (.unsendable (some u.text))

/-- The request of a call, given the token of the session. -/
def request (c : Client) (e : Endpoint α) (token : Option String) : Except RequestFault Request := do
  let url ← c.address e
  let (user, url) := takeUser url
  let url := url.addQuery (e.query.map fun p => (p.1.toList, p.2.toList))
  let authorization := user.toList ++ (c.authorization token e.credential).toList
  if !authorization.all isHeaderText then .error (.unsendable none)
  else if !isSendable url then .error (.unsendable (some url.text))
  else
    .ok { method := e.method, url, authorization, accept := e.accept, userAgent := c.settings.userAgent,
          body := e.body }

/-- Hands a request to the transport and waits for the answer that it gives in the end. -/
def exchange (r : Request) : Action σ Reply := do
  let s ← get
  let (answer, peer) := s.peer.answer r
  set ({ s with peer, exchanges := s.exchanges ++ [⟨r, answer⟩] } : Surroundings σ)
  match answer with
  | some reply => pure reply
  | none => Action.fail (.request (.unanswered r.url.text))

/-- Makes a call, without asking for a login. -/
def call (c : Client) (e : Endpoint α) : Action σ α := do
  let s ← get
  let r ← Action.ofExcept ((c.request e s.session.state.token).mapError .request)
  let reply ← exchange r
  Action.ofExcept (e.outcome reply)

/-! ### Logins -/

/-- A call that cannot fail: an error counts as none. -/
def attempt (act : Action σ α) : Action σ (Option α) := fun s =>
  match act s with
  | (.ok a, s) => (.ok (some a), s)
  | (.error _, s) => (.ok none, s)

variable [Storage σ]

/-- Whether the session is authenticated. The identity provider is asked about a token that has not expired. -/
def isAuthenticated (c : Client) : Action σ Bool := do
  match (← get).session.check with
  | .denied session =>
    Action.onSession fun _ => session
    pure false
  | .ask token =>
    let verdict ← attempt (c.call (Operation.validateToken token).endpoint)
    let (answer, session) := (← get).session.settle token (verdict = some true)
    Action.onSession fun _ => session
    pure answer

/-- Ends a call unless the session is authenticated. -/
def requireLogin (c : Client) : Action σ Unit := do
  if !(← c.isAuthenticated) then Action.fail .notLoggedIn

/-- Performs an operation. -/
def perform (c : Client) (op : Operation α) : Action σ α := do
  if op.endpoint.isGated then c.requireLogin
  c.call op.endpoint

/-- Asks about a token. That the provider cannot be asked is a failure of validation. -/
def askValidator (c : Client) (token : String) (s : Surroundings σ) : Except Failure Bool × Surroundings σ :=
  match c.perform (.validateToken token) s with
  | (.ok answer, s) => (.ok answer, s)
  | (.error e, s) => (.error ⟨.validation, e.display⟩, s)

/-- Logs in: checks the credentials, gets a token, and keeps both in the session. -/
def login (c : Client) (email password : String) : Action σ Profile := do
  let user ← c.perform (.validateUser email password)
  let token ← c.perform (.createToken email password)
  Action.onSession fun s => (s.setToken token).setUser user
  pure user

/-- Trades the token of the session for a new one, while others change the session before the answer arrives. The
request carries the token itself, so it does not show what they do. -/
def refreshDuring (c : Client) (meanwhile : Session σ → Session σ) : Action σ Unit := do
  match (← get).session.state.token with
  | none => Action.fail .notLoggedIn
  | some current =>
    Action.onSession meanwhile
    let token ← c.perform (.refreshToken current)
    Action.onSession (·.setToken token)

/-- Trades the token of the session for a new one. -/
def refreshSession (c : Client) : Action σ Unit := c.refreshDuring id

/-- Logs out. -/
def logout : Action σ Unit := Action.onSession Session.clearUser

/-- A client as a log shows it. -/
def summary (c : Client) (s : Session σ) : String :=
  "FancySpacesClient \x7b core_api_url: " ++ Text.Quoted.encode c.settings.coreUrl ++ ", idp_api_url: " ++
    Text.Quoted.encode c.settings.identityUrl ++ ", session: " ++ s.summary ++ ", .. \x7d"

end Client

end HostingClient
