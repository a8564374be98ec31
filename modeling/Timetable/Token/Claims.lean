import Timetable.Decimal.Whole
import Timetable.Digest.Sha256
import Timetable.Failure
import Timetable.Json.Decode
import Timetable.Text.Blank
import Timetable.Text.Utf8
import Timetable.Token.Base64

/-
  This file checks access tokens.  A token has three parts: a
  header that names the algorithm, the claims about its
  bearer, and the authentication code of the two.

  Key definitions include:
    * `Claims`
    * `Claims.ownerId`
    * `Verifier`
    * `Verifier.claims?`
    * `Verifier.validate`
-/

namespace Timetable.Token

------------------------------------------------------------
-- Claims
------------------------------------------------------------

/- What a token says about its bearer, and how long it is valid. -/
structure Claims where
  userId : String := ""
  role : String := ""
  email : String := ""
  fullName : String := ""
  subject : String := ""
  issuer : String := ""
  /- Seconds since the first of January 1970. -/
  expiresAt : Option Int := none
  notBefore : Option Int := none
deriving DecidableEq, Repr

/- Who the bearer is: the user, or else the subject. -/
def Claims.ownerId (c : Claims) : String :=
  if c.userId != "" then c.userId else c.subject

/- A text is a number as JSON writes it. -/
private def isNumberText (s : String) : Bool :=
  match Json.readNumber s.toList with
  | .ok (_, []) => true
  | _ => false

/- A date, given by a number or by the text of one. -/
private def numericDate : Json.Decoder Int
| .num literal, _ => (Decimal.readFloat? literal).map Decimal.wholePart
| .str s, _ =>
    if isNumberText s then (Decimal.readFloat? s).map Decimal.wholePart else none
| .null, old => some old
| _, _ => none

/- One text, or a list of texts; their content does not matter. -/
private def audience : Json.Decoder Unit
| .null, _ => some ()
| .str _, _ => some ()
| .arr vs, _ =>
    if vs.all (fun | .str _ => true | _ => false) then some () else none
| _, _ => none

/- Read claims. -/
def decodeClaims : Json.Decoder Claims :=
  Json.record
    [Json.field "user_id" Json.text (·.userId) (fun c v => { c with userId := v }),
      Json.field "role" Json.text (·.role) (fun c v => { c with role := v }),
      Json.field "email" Json.text (·.email) (fun c v => { c with email := v }),
      Json.field "full_name" Json.text (·.fullName) (fun c v => { c with fullName := v }),
      Json.field "iss" Json.text (·.issuer) (fun c v => { c with issuer := v }),
      Json.field "sub" Json.text (·.subject) (fun c v => { c with subject := v }),
      Json.field "aud" audience (fun _ => ()) (fun c _ => c),
      Json.field "exp" (Json.optional 0 numericDate) (·.expiresAt)
        (fun c v => { c with expiresAt := v }),
      Json.field "nbf" (Json.optional 0 numericDate) (·.notBefore)
        (fun c v => { c with notBefore := v }),
      Json.field "iat" (Json.optional 0 numericDate) (fun _ => none) (fun c _ => c),
      Json.field "jti" Json.text (fun _ => "") (fun c _ => c)]

------------------------------------------------------------
-- Checking Tokens
------------------------------------------------------------

/- What tokens are checked against. -/
structure Verifier where
  secret : String
  /- Who has to have issued a token; anyone if this is empty. -/
  issuer : String
deriving DecidableEq, Repr

/- The JSON value of a part of a token. -/
private def partValue? (part : String) : Option Json := do
  let bytes ← decode64? part
  (Json.whole (Text.ofBytes bytes)).toOption

/- A header holds no number out of range, and names the one algorithm that is accepted. -/
private def namesAlgorithm (header : Json) : Bool :=
  match Json.floats header with
  | .error _ => false
  | .ok header =>
      match header.member? "alg" with
      | some (.str name) => name == "HS256"
      | _ => false

/- A moment in the count of seconds from year one, in 64 bits. -/
private def secondsFromYearOne (seconds : Int) : Int :=
  Int.bmod (seconds + 62135596800) Decimal.int64Count

/- A moment lies before a date of a token. -/
private def precedes
    (nanos : Int)
    (seconds : Int) : Bool :=
  decide (nanos + 62135596800 * 1000000000 < secondsFromYearOne seconds * 1000000000)

/- Claims are valid at a moment. -/
def Verifier.accepts
    (v : Verifier)
    (nanos : Int)
    (c : Claims) : Bool :=
  (c.expiresAt.all (precedes nanos)) &&
    (c.notBefore.all (fun seconds => !precedes nanos seconds)) &&
    (v.issuer == "" || c.issuer == v.issuer)

/- The claims of a token that is authentic and valid at a moment. -/
def Verifier.claims?
    (v : Verifier)
    (nanos : Int)
    (token : String) : Option Claims :=
  match Text.split '.' token with
  | [header, claims, signature] => do
      unless namesAlgorithm (← partValue? header) do none
      let c ← decodeClaims (← partValue? claims) {}
      let code ← decode64? signature
      let signed := Text.bytesOf (header ++ "." ++ claims)
      unless code == Digest.hmacSha256 (Text.bytesOf v.secret) signed do none
      if v.accepts nanos c then some c else none
  | _ => none

/- The claims of a valid token, which has to name its bearer. -/
def Verifier.validate
    (v : Verifier)
    (nanos : Int)
    (token : String) : Except Failure Claims :=
  match v.claims? nanos token with
  | none => .error (.because .unauthorized "invalid token")
  | some c =>
      if c.ownerId == "" then .error (.because .unauthorized "token has no subject")
      else .ok c

end Timetable.Token
