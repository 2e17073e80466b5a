import HostingClient.Http.Status
import HostingClient.Url.Basic
import HostingClient.Json.Printer

/-! # Requests and answers

What goes over the wire, as far as the client decides or looks at it. A transport carries requests and answers; it
follows redirections on its own. -/

namespace HostingClient

/-- What a request does with its resource. -/
inductive Method where
  | get
  | post
  | put
  | delete
deriving DecidableEq, Repr, Inhabited

/-- The name of a method. -/
def Method.name : Method → String
  | get => "GET"
  | post => "POST"
  | put => "PUT"
  | delete => "DELETE"

/-- The body of a request. -/
inductive Body where
  | empty
  | json (value : Json)
  | text (s : String)
deriving Repr, Inhabited

/-- The type of the content of a body, if it is told. -/
def Body.contentType : Body → Option String
  | json _ => some "application/json"
  | empty | text _ => none

/-- A request. -/
structure Request where
  method : Method
  url : Url
  /-- The credentials, in the order in which they are sent. -/
  authorization : List String
  accept : String
  userAgent : String
  body : Body
deriving Repr, Inhabited

/-- An answer to a request: what the transport gives for it in the end. Where a server answers with a redirection to a
place that it names, the transport asks there, so the answer is the one that comes after that; a redirection that names
no place is an answer like any other. Redirections that cannot be followed to an end are left out, and so are the
headers of answers, which nothing looks at. -/
structure Reply where
  status : Nat
  body : List UInt8
  /-- Whether the connection closed before the end of the body. -/
  isCut : Bool
deriving DecidableEq, Repr, Inhabited

/-- The text of the body of an answer, with U+FFFD for what is not UTF-8. -/
def Reply.text (r : Reply) : String := String.ofList (Text.Utf8.decodeShown r.body)

/-- What the other side does, as the transport tells it: the answers that it still gives, one for each request that is
handed to the transport. Where there is none the connection closes without an answer. -/
structure Peer where
  answers : List (Option Reply)
  /-- Whether connections come about at all. -/
  isReachable : Bool
  /-- Whether encrypted connections come about as well. -/
  isEncrypted : Bool
deriving DecidableEq, Repr, Inhabited

namespace Peer

/-- Whether a request gets to the other side. -/
def gets (p : Peer) (r : Request) : Bool := p.isReachable && (r.url.scheme = ['h', 't', 't', 'p'] || p.isEncrypted)

/-- What comes back for a request, and what remains of the other side. -/
def answer (p : Peer) (r : Request) : Option Reply × Peer :=
  if !p.gets r then (none, p)
  else match p.answers with
    | [] => (none, p)
    | a :: rest => (a, { p with answers := rest })

end Peer

/-- A request that was sent, and what came back for it. -/
structure Exchange where
  request : Request
  answer : Option Reply
deriving Repr, Inhabited

/-- Whether a character may stand in a header. -/
def isHeaderChar (c : Char) : Bool := (' ' ≤ c && c != '\x7f') || c = '\t'

/-- Whether a text may stand in a header. -/
def isHeaderText (s : String) : Bool := s.toList.all isHeaderChar

end HostingClient
