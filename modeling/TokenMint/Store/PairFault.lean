import TokenMint.Failure

/-! # Why a token pair was not stored

Whatever the reason, nothing of the pair has been stored. -/

namespace TokenMint

/-- The step at which storing a pair failed, with the text of what went wrong there. -/
inductive PairFault where
  /-- The transaction could not begin. -/
  | unavailable (cause : String)
  /-- The refresh token could not be put in, or the one it replaces taken out. -/
  | refreshToken (cause : String)
  /-- The access token or its links to scopes could not be put in. -/
  | accessToken (cause : String)
  /-- The transaction could not end. -/
  | commit (cause : String)
  /-- The refresh token to be replaced is gone. -/
  | superseded (id : Int)
deriving DecidableEq, Repr

namespace PairFault

/-- What went wrong at the step, if that is what happened. -/
def cause? : PairFault → Option String
  | .unavailable c | .refreshToken c | .accessToken c | .commit c => some c
  | .superseded _ => none

/-- The wording of a fault. -/
def message : PairFault → String
  | .unavailable c => "store unavailable: " ++ c
  | .refreshToken c => "failed to persist refresh token: " ++ c
  | .accessToken c => "failed to persist access token: " ++ c
  | .commit c => "failed to commit token pair: " ++ c
  | .superseded id => "refresh token " ++ toString id ++ " was already superseded"

/-- The failure that the client sees: it depends on the step alone. -/
def failure : PairFault → Failure
  | .unavailable _ => .unavailable
  | .refreshToken _ => .database "Error saving refresh token"
  | .accessToken _ | .commit _ => .database "Error saving access token"
  | .superseded _ => .invalidGrant "Refresh token not found"

/-- The failure with the fault as its cause. -/
def report (f : PairFault) : Failure := f.failure.because f.message

@[simp] theorem report_code (f : PairFault) : f.report.code = f.failure.code := rfl
@[simp] theorem report_message (f : PairFault) : f.report.message = f.failure.message := rfl

end PairFault

end TokenMint
