/-! # The response to a successful token request -/

namespace TokenMint

/-- A token pair as its holder sees it. -/
structure TokenResponse where
  /-- The row of the access token. -/
  id : Int
  accessToken : String
  /-- The lifetime of the access token in seconds. -/
  expiresIn : Int
  tokenType : String
  /-- The names of the granted scopes. -/
  scope : String
  refreshToken : String
deriving DecidableEq, Repr

end TokenMint
