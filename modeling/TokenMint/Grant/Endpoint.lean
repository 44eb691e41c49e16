import TokenMint.Grant.Program
import TokenMint.Grant.Request
import TokenMint.Grant.Response
import TokenMint.Lifetimes
import TokenMint.Text.Pieces

/-! # The token endpoint

A token request is answered by authenticating whoever presents a secret, or by looking up the
presented refresh token, and then issuing a pair of tokens to the owner so found. A secret presented
for an unknown principal is verified all the same, against a placeholder, so that the answer takes
as long as any; the outcome of that does not count. -/

namespace TokenMint.Endpoint

/-- The secret behind the placeholder hash. -/
def placeholderSecret : String := "unknown-principal-placeholder"

/-- Issues a pair to an owner, in place of the refresh token of one row if that is given. -/
def issue (lifetimes : Lifetimes) (owner : Owner) (supersedes : Option Int) :
    Program (Except Failure TokenResponse) := do
  let now ← .call .now
  let refreshToken ← .call .freshToken
  let accessToken ← .call .freshToken
  let pair : NewPair :=
    { refreshToken
      refreshExpiresAt := now.later lifetimes.refresh
      accessToken
      accessExpiresAt := now.later lifetimes.access
      owner
      supersedes }
  match ← .call (.storePair pair) with
  | .error f => return .error f.report
  | .ok issued =>
    return .ok {
      id := issued.accessTokenId
      accessToken
      expiresIn := lifetimes.access
      tokenType := "Bearer"
      scope := Text.join " " (issued.scopes.map (·.name))
      refreshToken }

/-- Whether a secret has the stored hash; without a stored hash it has none, which takes as long to
find out. -/
def authenticate (secret : String) : Option String → Program (Except Failure Bool)
  | some hash => return .ok (← .call (.verify secret hash))
  | none => do
    match ← .call .placeholder with
    | .error f => return .error f
    | .ok hash =>
      let _ ← .call (.verify secret hash)
      return .ok false

/-- Issues a pair to whoever the lookup has found, if the secret is theirs. -/
def grantTo (lifetimes : Lifetimes) (secret : String) (found : Option (Owner × String)) :
    Program (Except Failure TokenResponse) := do
  match ← authenticate secret (found.map (·.2)) with
  | .error f => return .error f
  | .ok authentic =>
    match found with
    | some (owner, _) =>
      if authentic then issue lifetimes owner none else return .error .unauthorized
    | none => return .error .unauthorized

/-- A user exchanges a name and a password. -/
def passwordGrant (lifetimes : Lifetimes) (c : Credentials) :
    Program (Except Failure TokenResponse) := do
  match ← .call (.user c.identifier) with
  | .error f => return .error f
  | .ok found => grantTo lifetimes c.secret (found.map fun u ↦ (.user u.id, u.hash))

/-- A client exchanges its identifier and secret. -/
def clientGrant (lifetimes : Lifetimes) (c : Credentials) :
    Program (Except Failure TokenResponse) := do
  match ← .call (.client c.identifier) with
  | .error f => return .error f
  | .ok found => grantTo lifetimes c.secret (found.map fun k ↦ (.client k.id, k.hash))

/-- A refresh token is exchanged for a new pair, which replaces the old one. -/
def refreshGrant (lifetimes : Lifetimes) (token : String) :
    Program (Except Failure TokenResponse) := do
  match ← .call (.refreshToken token) with
  | .error f => return .error f
  | .ok none => return .error (.invalidGrant "Refresh token not found")
  | .ok (some found) =>
    if found.expired (← .call .now) then return .error (.invalidGrant "Refresh token expired")
    else
      match ← .call (.accessToken found.id) with
      | .error f => return .error f
      | .ok access =>
        match access.bind (·.owner?) with
        | none => return .error (.invalidGrant "Access token with refresh token not found")
        | some owner => issue lifetimes owner (some found.id)

/-- Answers a token request that came with these Basic credentials, if any. The grant type is
settled before anything is asked. -/
def token (lifetimes : Lifetimes) (basic : Option Credentials) (r : TokenRequest) :
    Program (Except Failure TokenResponse) :=
  match GrantType.parse r.grantType with
  | .error f => return .error f
  | .ok .password => passwordGrant lifetimes (.resolve basic r.username r.password)
  | .ok .clientCredentials => clientGrant lifetimes (.resolve basic r.clientId r.clientSecret)
  | .ok .refreshToken => refreshGrant lifetimes (r.refreshToken.getD "")

/-- Makes the placeholder ready ahead of the first request. -/
def warmUp : Program (Except Failure Unit) := do
  match ← .call .placeholder with
  | .error f => return .error f
  | .ok _ => return .ok ()

theorem token_of_unsupported {lifetimes : Lifetimes} {basic : Option Credentials} {r : TokenRequest}
    (h : ∀ g : GrantType, r.grantType ≠ g.name) :
    token lifetimes basic r = .done (.error .unsupportedGrant) := by
  rw [token, GrantType.parse_eq_error.2 ⟨h, rfl⟩]
  rfl

end TokenMint.Endpoint
