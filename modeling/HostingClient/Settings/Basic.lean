import HostingClient.Failure
import HostingClient.Storage.FileSystem
import HostingClient.Text.Blank
import HostingClient.Url.Reader

/-! # Settings

Where the services are, how requests are sent, and where the session is kept. Settings are in order if the four
addresses can be read and the time limit is positive. -/

namespace HostingClient

/-- The settings of a client. -/
structure Settings where
  /-- Spaces, issues, versions, secrets, packages and articles. -/
  coreUrl : String
  /-- The identity provider: tokens, users and keys. -/
  identityUrl : String
  /-- Dashboards, events, logs, metrics and templates. -/
  analyticsUrl : String
  /-- Databases. -/
  storageUrl : String
  /-- How long a request may take, in seconds. -/
  timeout : Nat
  userAgent : String
  /-- The key for what is not bound to a login. -/
  apiKey : Option String
  /-- Where the session is kept. -/
  storageDirectory : String
deriving DecidableEq, Repr, Inhabited

/-- The variables of the environment. -/
abbrev Environment := List (String × String)

namespace Settings

/-- The fields of settings in data. -/
def record : Record Settings where
  fields :=
    .cons (.required "core_api_url" .text) <| .cons (.required "idp_api_url" .text) <|
    .cons (.required "analytics_api_url" .text) <| .cons (.required "storage_api_url" .text) <|
    .cons (.required "timeout_secs" .natural) <| .cons (.required "user_agent" .text) <|
    .cons (.open? "api_key" .text) <| .cons (.required "storage_dir" .text) .nil
  build := fun (coreUrl, identityUrl, analyticsUrl, storageUrl, timeout, userAgent, apiKey, storageDirectory, ()) =>
    { coreUrl, identityUrl, analyticsUrl, storageUrl, timeout, userAgent, apiKey, storageDirectory }
  parts s :=
    (s.coreUrl, s.identityUrl, s.analyticsUrl, s.storageUrl, s.timeout, s.userAgent, s.apiKey, s.storageDirectory, ())

/-- Where data of programs is kept: the directory that the environment names, if it starts at the root, else one in
the user's home. -/
def dataDirectory (env : Environment) : String :=
  match env.lookup "XDG_DATA_HOME", env.lookup "HOME" with
  | some dir, home => if dir.startsWith "/" then dir else inHome home
  | none, home => inHome home
where
  /-- The directory in a home. -/
  inHome : Option String → String
    | some home => if home.isEmpty then "." else FileSystem.join home ".local/share"
    | none => "."

/-- Where the session is kept if the settings do not say. -/
def defaultDirectory (env : Environment) : String := FileSystem.join (dataDirectory env) "fancyspaces"

/-- The settings of the public platform. -/
def standard (env : Environment) : Settings where
  coreUrl := "https://fancyspaces.net/api/v1"
  identityUrl := "https://idp.fancyspaces.net/idp/api/v1"
  analyticsUrl := "https://fancyspaces.net/analytics/api/v1"
  storageUrl := "https://fancyspaces.net/storage/api/v1"
  timeout := 30
  userAgent := "fancyspaces-client/0.1.0"
  apiKey := none
  storageDirectory := defaultDirectory env

/-- The settings of a platform that has all its services under one address. -/
def forOrigin (env : Environment) (origin : String) : Settings :=
  let origin := Text.trimSlashes origin
  { standard env with
    coreUrl := origin ++ "/api/v1"
    identityUrl := origin ++ "/idp/api/v1"
    analyticsUrl := origin ++ "/analytics/api/v1"
    storageUrl := origin ++ "/storage/api/v1" }

/-- The addresses with their names. -/
def urls (s : Settings) : List (String × String) :=
  [("core_api_url", s.coreUrl), ("idp_api_url", s.identityUrl), ("analytics_api_url", s.analyticsUrl),
    ("storage_api_url", s.storageUrl)]

/-- What is wrong with settings. -/
inductive Defect where
  | url (name value : String) (fault : Url.Fault)
  | timeout
  /-- The settings cannot be read. -/
  | unreadable
deriving DecidableEq, Repr, Inhabited

/-- The explanation of a defect. -/
def Defect.message : Defect → String
  | url name value fault => s!"{name} '{value}': {fault.message}"
  | timeout => "timeout_secs must be positive"
  | unreadable => "<config>"

/-- A defect as a failure. -/
def Defect.failure (d : Defect) : Failure := ⟨.config, d.message⟩

/-- Checks that an address can be read. -/
def checkUrl (name value : String) : Except Defect Unit :=
  match Url.read value with
  | .ok _ => .ok ()
  | .error fault => .error (.url name value fault)

/-- Checks that settings are in order. -/
def validate (s : Settings) : Except Defect Unit := do
  s.urls.forM fun e => checkUrl e.1 e.2
  if s.timeout = 0 then .error .timeout

end Settings

end HostingClient
