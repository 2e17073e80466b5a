import HostingClient.Failure
import HostingClient.Http.Status

/-! # Errors of the client

Why a call does not give a result, with the text that is shown for it. -/

namespace HostingClient

/-- Why a request gets no answer that can be used. -/
inductive RequestFault where
  /-- The request cannot be written: a header holds what headers may not hold, or the address is of no use. The
  address is named only if it could be read. -/
  | unsendable (url : Option String)
  /-- No answer came back. -/
  | unanswered (url : String)
  /-- The body of the answer broke off. -/
  | cutBody
deriving DecidableEq, Repr, Inhabited

/-- The text of a fault. -/
def RequestFault.message : RequestFault → String
  | unsendable none => "builder error"
  | unsendable (some url) => s!"builder error for url ({url})"
  | unanswered url => s!"error sending request for url ({url})"
  | cutBody => "error decoding response body"

/-- An error of a call. -/
inductive ClientError where
  /-- The call needs a login. -/
  | notLoggedIn
  | request (fault : RequestFault)
  /-- The server answered with a status that the call does not accept. -/
  | status (context : String) (code : Nat) (body : String)
  /-- The body of the answer cannot be decoded. -/
  | decode (context : String) (fault : DecodeFault)
  /-- The server answered without content. -/
  | emptyBody (context : String)
  | configuration (message : String)
  | failure (f : Failure)
deriving DecidableEq, Repr, Inhabited

namespace ClientError

/-- The text that is shown for an error. -/
def display : ClientError → String
  | notLoggedIn => "User is not logged in"
  | request fault => s!"Request failed: {fault.message}"
  | status context code body => s!"Failed to {context} (code {code} \"{Status.reason code}\"): {body}"
  | decode context fault => s!"Failed to parse {context}: {fault.message}"
  | emptyBody context => s!"Failed to {context}: no content returned"
  | configuration message => s!"Invalid configuration: {message}"
  | failure f => f.display

/-- The status with which the server answered. -/
def code? : ClientError → Option Nat
  | status _ code _ => some code
  | _ => none

/-- Whether what was asked for does not exist. -/
def isNotFound (e : ClientError) : Bool := e.code? = some 404

/-- Whether a login is missing or was refused. -/
def isUnauthorized (e : ClientError) : Bool :=
  e = .notLoggedIn || e.code? = some 401 || e.code? = some 403

end ClientError

end HostingClient
