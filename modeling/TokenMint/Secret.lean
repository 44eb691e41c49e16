import TokenMint.Bcrypt.Hash
import TokenMint.Failure

/-! # Secrets -/

namespace TokenMint.Secret

/-- The written hash of a secret under a salt of sixteen bytes, or the failure to make one. -/
def hash (secret : String) (cost : UInt32) (salt : List UInt8) : Except Failure String :=
  (Bcrypt.hash secret cost salt).mapError (Failure.internal "Failed to hash secret").because

end TokenMint.Secret
