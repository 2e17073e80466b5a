import HostingClient.Time.Timestamp
import HostingClient.Codec.Base64
import HostingClient.Failure

/-! # Token claims

A token has three parts divided by dots. The middle one is a payload in base64, a JSON object of claims. Its
signature is never checked here: the claims only tell whether a token is worth sending. -/

namespace HostingClient

open HostingClient.Time

/-- What a token says of itself. -/
structure Claims where
  subject : Option String
  /-- The second in which the token expires. -/
  expires : Option Number.Binary64
  issuedAt : Option Number.Binary64
  issuer : Option String
deriving DecidableEq, Repr, Inhabited

namespace Claims

/-- The fields of the payload. -/
def record : Record Claims where
  fields :=
    .cons (.open? "sub" .text) <| .cons (.open? "exp" .real) <| .cons (.open? "iat" .real) <|
    .cons (.open? "iss" .text) .nil
  build := fun (subject, expires, issuedAt, issuer, ()) => { subject, expires, issuedAt, issuer }
  parts c := (c.subject, c.expires, c.issuedAt, c.issuer, ())

/-- When a token expires: the start of the second, if timestamps can have it. -/
def expiry (c : Claims) : Option Instant := c.expires.bind fun x => Instant.ofSecond? x.truncate

end Claims

/-- Why a token has no claims. -/
inductive TokenFault where
  | notThreeParts
  | notBase64
  | payload (f : DecodeFault)
deriving DecidableEq, Repr

namespace TokenFault

/-- The explanation of a fault. -/
def message : TokenFault → String
  | notThreeParts => "token is not a JWT"
  | notBase64 => "invalid token payload: <base64>"
  | payload f => f.message

/-- A fault as a failure to read data. -/
def failure (f : TokenFault) : Failure := ⟨.serialization, f.message⟩

end TokenFault

namespace Token

/-- The parts of a text between dots. -/
def parts : List Char → List (List Char)
  | [] => [[]]
  | c :: rest =>
    if c = '.' then [] :: parts rest
    else match parts rest with
      | p :: ps => (c :: p) :: ps
      | [] => [[c]]

/-- The second of at least three parts, if it is not empty. -/
def payload? (token : List Char) : Option (List Char) :=
  match parts token with
  | _ :: p :: _ :: _ => if p.isEmpty then none else some p
  | _ => none

/-- The bytes of the payload of a token. Padding is dropped, as some issuers write it. -/
def payloadBytes (token : String) : Except TokenFault (List UInt8) :=
  match payload? token.toList with
  | none => .error .notThreeParts
  | some p =>
    match Codec.Base64.decode? .urlSafe (Text.trimEndBy (· == '=') p) with
    | none => .error .notBase64
    | some bytes => .ok bytes

/-- The claims of a token. -/
def claims (token : String) : Except TokenFault Claims := do
  let bytes ← payloadBytes token
  (Claims.record.decode.runBytes bytes).mapError .payload

/-- When a token expires, if it can be read and tells. -/
def expiry? (token : String) : Option Instant := (claims token).toOption.bind Claims.expiry

/-- The nanoseconds that a token is still valid. It is zero for no token and for one that does not tell. -/
def ttl (token : Option String) (now : Instant) : Nat :=
  match token.bind expiry? with
  | some t => (t.since now).toNat
  | none => 0

end Token

end HostingClient
