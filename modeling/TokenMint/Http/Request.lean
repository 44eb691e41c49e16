import TokenMint.Bytes.Base64
import TokenMint.Bytes.Form
import TokenMint.Grant.Request

/-! # Requests

A request is read leniently: credentials that are not well formed count as absent, and a form that
cannot be read counts as empty. -/

namespace TokenMint

/-- The value of a field that comes once, nothing for one that does not come, and no answer for one
that comes more than once. -/
def TokenRequest.single? (fields : List (String × List UInt8)) (name : String) :
    Option (Option String) :=
  match fields.filter (·.1 = name) with
  | [] => some none
  | [f] => some (some (Bytes.Form.part f.2))
  | _ => none

/-- The token request that a form holds: a field of the request may come once, and other fields do
not count. -/
def TokenRequest.ofForm? (body : List UInt8) : Option TokenRequest := do
  let fields := Bytes.Form.fields body
  return {
    grantType := (← single? fields "grant_type").getD ""
    username := ← single? fields "username"
    password := ← single? fields "password"
    clientId := ← single? fields "client_id"
    clientSecret := ← single? fields "client_secret"
    refreshToken := ← single? fields "refresh_token"
    scope := ← single? fields "scope" }

namespace Http

/-- A request, its header fields in the order in which they came. -/
structure Request where
  method : String
  target : String
  headers : List (String × String) := []
  body : List UInt8 := []

namespace Request

/-- The first header field with a name, which may be written in any case. -/
def header? (r : Request) (name : String) : Option String :=
  (r.headers.find? fun h ↦ Text.lower h.1 = name).map (·.2)

/-- The path of a target: neither query nor fragment, and neither scheme nor authority. -/
def path (r : Request) : String :=
  let cs := r.target.toList.takeWhile (· ∉ ['?', '#'])
  match cs with
  | '/' :: _ => .ofList cs
  | _ =>
    let rest := cs.dropWhile (· ≠ '/')
    if "//".toList.isPrefixOf rest then
      let path := (rest.drop 2).dropWhile (· ≠ '/')
      if path = [] then "/" else .ofList path
    else .ofList cs

/-- What follows the scheme of a header value, in any case, and a blank. -/
def afterScheme? (scheme value : String) : Option (List Char) :=
  let (name, rest) := Pieces.cut ' ' value.toList
  if Text.lower (.ofList name) = scheme then rest else none

/-- The credentials in a header value: identifier and secret around the first colon, coded. -/
def decodeBasic? (value : String) : Option Credentials := do
  let coded := (← afterScheme? "basic" value).dropWhile (· = ' ')
  guard (coded ≠ [])
  let text ← Bytes.Utf8.decode? (← Bytes.Base64.standard.decode coded)
  let (identifier, secret) := Text.cut ':' text
  return { identifier, secret := ← secret }

/-- The Basic credentials of a request, if the first header field for them has any. -/
def basic? (r : Request) : Option Credentials := r.header? "authorization" >>= decodeBasic?

def formType : String := "application/x-www-form-urlencoded"

/-- Whether the first header field for it says that the body is a form. -/
def isForm (r : Request) : Bool :=
  match r.header? "content-type" with
  | none => false
  | some v =>
    v.toList.all (fun c ↦ c = '\t' || (' ' ≤ c && c ≤ '~')) && (Text.after? formType v).isSome

/-- The longest body that is read, in bytes. -/
def bodyLimit : Nat := 2097152

/-- The form of a request, if it can be read. -/
def form? (r : Request) : Option TokenRequest :=
  if r.isForm && r.body.length ≤ bodyLimit then TokenRequest.ofForm? r.body else none

end Request

end Http

end TokenMint
