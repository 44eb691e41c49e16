/-! # Failures reported to clients

A failure has a code, which decides the status of the response, a message, which is all that the
client sees of it, and the texts of the errors that caused it, which stay inside. -/

namespace TokenMint

namespace Failure

/-- The kinds of failure that a client can tell apart. -/
inductive Code where
  | authInvalid
  | invalidInput
  | invalidGrantType
  | invalidGrant
  | internalError
  | databaseError
  | databaseUnavailable
deriving DecidableEq, Repr

namespace Code

/-- Every code, by increasing number. -/
def all : List Code :=
  [.authInvalid, .invalidInput, .invalidGrantType, .invalidGrant, .internalError, .databaseError,
    .databaseUnavailable]

/-- The name of a code on the wire. -/
def name : Code → String
  | .authInvalid => "AUTH_INVALID"
  | .invalidInput => "INVALID_INPUT"
  | .invalidGrantType => "INVALID_GRANT_TYPE"
  | .invalidGrant => "INVALID_GRANT"
  | .internalError => "INTERNAL_ERROR"
  | .databaseError => "DATABASE_ERROR"
  | .databaseUnavailable => "DATABASE_UNAVAILABLE"

def ofName? (s : String) : Option Code := all.find? (·.name = s)

/-- The number of a code: 1000s for authentication, 3000s for validation, 9000s for the server. -/
def number : Code → Nat
  | .authInvalid => 1001
  | .invalidInput => 3000
  | .invalidGrantType => 3004
  | .invalidGrant => 3005
  | .internalError => 9000
  | .databaseError => 9001
  | .databaseUnavailable => 9004

/-- The status of the response: the client is at fault, is not known, or the server is at fault. -/
def status : Code → Nat
  | .invalidInput | .invalidGrantType | .invalidGrant => 400
  | .authInvalid => 401
  | .internalError | .databaseError | .databaseUnavailable => 500

/-- What a code means, for logs. -/
def description : Code → String
  | .authInvalid => "The provided authentication credentials are invalid"
  | .invalidInput => "The provided input is invalid"
  | .invalidGrantType => "The requested grant type is not supported"
  | .invalidGrant => "The presented grant is unknown, expired or already used"
  | .internalError => "An internal server error occurred"
  | .databaseError => "Database operation failed"
  | .databaseUnavailable => "Database is unreachable"

theorem ofName?_name (c : Code) : ofName? c.name = some c := by cases c <;> decide

/-- Only an authentication failure has status 401. -/
theorem status_eq_401 {c : Code} : c.status = 401 ↔ c = .authInvalid := by cases c <;> decide

end Code

end Failure

/-- A failure as the endpoint reports it. -/
structure Failure where
  code : Failure.Code
  message : String
  /-- The texts of the errors behind this one, from the outside in. -/
  causes : List String := []
deriving DecidableEq, Repr

namespace Failure

/-- The same failure with the texts of what caused it. -/
def dueTo (f : Failure) (causes : List String) : Failure := { f with causes }

/-- The same failure with the text of what caused it. -/
def because (f : Failure) (cause : String) : Failure := f.dueTo [cause]

/-- The text of the error right behind this one. -/
def cause? (f : Failure) : Option String := f.causes.head?

def status (f : Failure) : Nat := f.code.status

/-- Whether the response asks the client to authenticate. -/
def challenges (f : Failure) : Bool := f.code = .authInvalid

/-- The failure in one line, for logs. -/
def display (f : Failure) : String := f.code.description ++ ": " ++ f.message

/-- The grant type is missing or unknown. -/
def unsupportedGrant : Failure := { code := .invalidGrantType, message := "Invalid grant type" }

/-- The one answer to every failed authentication: it does not say which check failed. -/
def unauthorized : Failure := { code := .authInvalid, message := "Unauthorized" }

/-- The store could not be reached. -/
def unavailable : Failure :=
  { code := .databaseUnavailable, message := "Error connecting to database" }

/-- The presented grant cannot be honoured. -/
def invalidGrant (message : String) : Failure := { code := .invalidGrant, message }

def invalidInput (message : String) : Failure := { code := .invalidInput, message }

def internal (message : String) : Failure := { code := .internalError, message }

def database (message : String) : Failure := { code := .databaseError, message }

@[simp] theorem dueTo_code (f : Failure) (l : List String) : (f.dueTo l).code = f.code := rfl
@[simp] theorem dueTo_message (f : Failure) (l : List String) : (f.dueTo l).message = f.message :=
  rfl
@[simp] theorem because_code (f : Failure) (s : String) : (f.because s).code = f.code := rfl
@[simp] theorem because_message (f : Failure) (s : String) : (f.because s).message = f.message :=
  rfl

theorem challenges_iff {f : Failure} : f.challenges ↔ f.status = 401 := by
  simp [challenges, status, Code.status_eq_401]

end Failure

end TokenMint
