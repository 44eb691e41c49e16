import TokenMint.Failure
import TokenMint.Text.Quoted

/-! # Token requests

A token request names a grant and carries what the grant needs: an identifier and a secret, which
may also come in a header, or a refresh token. -/

namespace TokenMint

/-- The ways to obtain tokens. -/
inductive GrantType where
  | password
  | clientCredentials
  | refreshToken
deriving DecidableEq, Repr

namespace GrantType

/-- The name of a grant on the wire. -/
def name : GrantType → String
  | .password => "password"
  | .clientCredentials => "client_credentials"
  | .refreshToken => "refresh_token"

/-- The grant with exactly this name. -/
def parse (s : String) : Except Failure GrantType :=
  match [password, clientCredentials, refreshToken].find? (·.name = s) with
  | some g => .ok g
  | none => .error .unsupportedGrant

theorem parse_eq_ok {s : String} {g : GrantType} : parse s = .ok g ↔ s = g.name := by
  constructor
  · unfold parse
    split
    · rename_i h
      rintro ⟨⟩
      simpa [eq_comm] using List.find?_some h
    · nofun
  · rintro rfl
    cases g <;> rfl

theorem parse_eq_error {s : String} {f : Failure} :
    parse s = .error f ↔ (∀ g : GrantType, s ≠ g.name) ∧ f = .unsupportedGrant := by
  cases h : parse s with
  | ok g =>
    have known := parse_eq_ok.1 h
    simpa using fun unknown : ∀ g : GrantType, s ≠ g.name ↦ absurd known (unknown g)
  | error e =>
    have unknown : ∀ g : GrantType, s ≠ g.name := fun g hg ↦ by simp [parse_eq_ok.2 hg] at h
    have : e = .unsupportedGrant := by
      unfold parse at h
      split at h <;> simp_all
    simp [unknown, this, eq_comm]

end GrantType

/-- The fields of a token request. The requested scope is of no consequence. -/
structure TokenRequest where
  grantType : String := ""
  username : Option String := none
  password : Option String := none
  clientId : Option String := none
  clientSecret : Option String := none
  refreshToken : Option String := none
  scope : Option String := none
deriving DecidableEq, Repr

/-- An identifier and a secret, as presented. -/
structure Credentials where
  identifier : String
  secret : String
deriving DecidableEq, Repr

namespace Credentials

/-- Credentials from the header win; without them the fields of the form count, where a missing
one is empty. -/
def resolve (basic : Option Credentials) (identifier secret : Option String) : Credentials :=
  basic.getD { identifier := identifier.getD "", secret := secret.getD "" }

/-- Credentials for a log: the identifier quoted, the secret left out. -/
def redacted (c : Credentials) : String :=
  "Credentials \x7b identifier: " ++ Text.Quoted.quote c.identifier
    ++ ", secret: " ++ Text.Quoted.quote "[REDACTED]" ++ " \x7d"

end Credentials

end TokenMint
