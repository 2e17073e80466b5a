import HostingClient.Client.Error
import HostingClient.Http.Message
import HostingClient.Resource.Database

/-! # Endpoints

An endpoint says all there is to say about a call: where its request goes and with which credential, which status
it accepts, and what it makes of the answer. -/

namespace HostingClient

/-- A service of the platform. -/
inductive Service where
  | core
  | identity
  | analytics
  | storage
deriving DecidableEq, Repr, Inhabited

/-- How a request shows who sends it. -/
inductive Credential where
  | none
  /-- The token of the session, if it has one. -/
  | session
  /-- A token given with the call. -/
  | bearer (token : String)
  /-- The key of the settings, if they have one. -/
  | apiKey
  | basic (user password : String)
deriving DecidableEq, Repr, Inhabited

/-- Which status a call accepts. -/
inductive Expectation where
  | success
  | exactly (code : Nat)
deriving DecidableEq, Repr, Inhabited

/-- Whether a status is accepted. -/
def Expectation.accepts : Expectation → Nat → Bool
  | success, code => Status.isSuccess code
  | exactly expected, code => code = expected

/-- A segment of a path: one that the service fixes, or an identifier that the caller gives. -/
inductive Segment where
  | fixed (text : String)
  | given (text : String)
deriving DecidableEq, Repr, Inhabited

/-- The text of a segment. Identifiers are escaped. -/
def Segment.text : Segment → List Char
  | fixed s => s.toList
  | given s => Codec.Percent.segment s.toList

/-- The text of a path. -/
def pathText (path : List Segment) : List Char := path.flatMap fun s => '/' :: s.text

/-- What a call makes of the body of an accepted answer. -/
inductive Content : Type → Type 1 where
  | ignored : Content Unit
  /-- Whether the status was a success; any status is accepted. -/
  | verdict : Content Bool
  | text : Content String
  /-- A text that is not blank. -/
  | nonBlank : Content String
  | json {α : Type} (d : Decoder α) : Content α
  /-- A list; anything that is not a list counts as an empty one. -/
  | listOrEmpty {α : Type} (d : Decoder α) : Content (List α)

/-- A call to a service. -/
structure Endpoint (α : Type) where
  service : Service
  method : Method
  path : List Segment
  query : List (String × String)
  credential : Credential
  /-- Whether a login is asked for before anything is sent. -/
  isGated : Bool
  accept : String
  body : Body
  expect : Expectation
  /-- What the call does, as errors tell it. -/
  context : String
  content : Content α

namespace Endpoint
variable {α : Type}

/-- A call without body that accepts any success. -/
def make (service : Service) (method : Method) (path : List Segment) (credential : Credential) (context : String)
    (content : Content α) : Endpoint α :=
  { service, method, path, credential, context, content, query := [], isGated := false, accept := "*/*",
    body := .empty, expect := .success }

/-- The call with a JSON body. -/
def sending (e : Endpoint α) (value : Json) : Endpoint α := { e with body := .json value }

/-- The call with names and values in its address. -/
def asking (e : Endpoint α) (query : List (String × String)) : Endpoint α := { e with query }

/-- The call, accepting one status only. -/
def expecting (e : Endpoint α) (code : Nat) : Endpoint α := { e with expect := .exactly code }

/-- The call, with a login asked for first. -/
def gated (e : Endpoint α) : Endpoint α := { e with isGated := true }

/-- The call, asking for plain text. -/
def plain (e : Endpoint α) : Endpoint α := { e with accept := "text/plain" }

/-- The text of the body of an accepted answer. -/
def bodyText (r : Reply) : Except ClientError String := if r.isCut then .error (.request .cutBody) else .ok r.text

/-- Decodes the body of an answer. -/
def decodeBody (context : String) (d : Decoder α) (body : String) : Except ClientError α :=
  (d.run body).mapError (.decode context)

/-- Decodes a list, or anything else as the empty list. The body is read as any value first. -/
def decodeList (context : String) (d : Decoder α) (body : String) : Except ClientError (List α) := do
  match ← decodeBody context Decoder.any body with
  | .array items => (d.list.ofValue (.array items)).mapError (.decode context)
  | _ => .ok []

/-- What a call makes of an accepted answer. -/
def read (context : String) (r : Reply) : {α : Type} → Content α → Except ClientError α
  | _, .ignored => .ok ()
  | _, .verdict => .ok (Status.isSuccess r.status)
  | _, .text => bodyText r
  | _, .nonBlank => do
    let body ← bodyText r
    if Text.isBlankText body then .error (.emptyBody context) else .ok body
  | _, .json d => do
    let body ← bodyText r
    decodeBody context d body
  | _, .listOrEmpty d => do
    let body ← bodyText r
    decodeList context d body

/-- Whether a status is accepted. -/
def accepts (e : Endpoint α) (code : Nat) : Bool :=
  match e.content with
  | .verdict => true
  | _ => e.expect.accepts code

/-- What a call makes of an answer. -/
def outcome (e : Endpoint α) (r : Reply) : Except ClientError α :=
  if e.accepts r.status then read e.context r e.content
  else .error (.status e.context r.status (if r.isCut then "" else r.text))

end Endpoint

end HostingClient
