import TokenMint.Time.Instant

/-! # Users, clients, scopes and tokens -/

namespace TokenMint

/-- A resource owner, who logs in with a name and a password. -/
structure User where
  id : Int
  username : String
  /-- The hash of the password. -/
  hash : String
deriving DecidableEq, Repr

/-- A confidential client, known by a public name and a secret. -/
structure Client where
  id : Int
  clientId : String
  /-- The hash of the secret. -/
  hash : String
deriving DecidableEq, Repr

/-- A scope; the standard ones are attached to every new access token. -/
structure Scope where
  id : Int
  name : String
  isDefault : Bool
deriving DecidableEq, Repr

/-- A refresh token as it is stored. -/
structure RefreshToken where
  id : Int
  token : String
  expiresAt : Instant
deriving DecidableEq, Repr

/-- Whether a token has expired: at the instant of its expiry it has. -/
def RefreshToken.expired (t : RefreshToken) (now : Instant) : Bool := t.expiresAt ≤ now

/-- Whoever a token speaks for. -/
inductive Owner where
  | client (id : Int)
  | user (id : Int)
deriving DecidableEq, Repr

namespace Owner

/-- The owner that two columns name: exactly one of them may be set. -/
def ofColumns? : Option Int → Option Int → Option Owner
  | some c, none => some (.client c)
  | none, some u => some (.user u)
  | _, _ => none

/-- What the owner puts into the column for clients. -/
def clientId? : Owner → Option Int
  | .client id => some id
  | .user _ => none

/-- What the owner puts into the column for users. -/
def userId? : Owner → Option Int
  | .client _ => none
  | .user id => some id

@[simp] theorem ofColumns?_columns (o : Owner) : ofColumns? o.clientId? o.userId? = some o := by
  cases o <;> rfl

theorem ofColumns?_eq_some {c u : Option Int} {o : Owner} :
    ofColumns? c u = some o ↔ c = o.clientId? ∧ u = o.userId? := by
  cases c <;> cases u <;> cases o <;> simp [ofColumns?, clientId?, userId?]

end Owner

/-- An access token as it is stored. -/
structure AccessToken where
  id : Int
  token : String
  expiresAt : Instant
  clientId : Option Int
  userId : Option Int
  refreshTokenId : Int
deriving DecidableEq, Repr

/-- The owner of an access token. -/
def AccessToken.owner? (t : AccessToken) : Option Owner := Owner.ofColumns? t.clientId t.userId

/-- A pair of tokens yet to be stored. -/
structure NewPair where
  refreshToken : String
  refreshExpiresAt : Instant
  accessToken : String
  accessExpiresAt : Instant
  owner : Owner
  /-- The row of the refresh token that this pair replaces. -/
  supersedes : Option Int
deriving DecidableEq, Repr

/-- What storing a pair has made. -/
structure IssuedPair where
  accessTokenId : Int
  refreshTokenId : Int
  /-- The scopes attached to the access token. -/
  scopes : List Scope
deriving DecidableEq, Repr

end TokenMint
