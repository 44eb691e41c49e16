import TokenMint.Wire

/-! # Responses -/

namespace TokenMint.Http

/-- What is sent back: a status, header fields in small letters, and a body. -/
structure Response where
  status : Nat
  headers : List (String × String) := []
  body : String := ""
deriving DecidableEq, Repr

namespace Response

/-- The value of a header field. -/
def header? (r : Response) (name : String) : Option String := r.headers.lookup name

/-- A response whose body is JSON. -/
def json (status : Nat) (body : String) : Response :=
  { status, headers := [("content-type", "application/json")], body }

/-- The challenge that comes with every authentication failure. -/
def challenge : String × String := ("www-authenticate", "Basic realm=Bearer")

/-- A failure as the client sees it: its code and its message, and nothing of its cause. -/
def ofFailure (f : Failure) : Response :=
  let r := json f.status (Wire.write (ErrorBody.mk f.message))
  if f.challenges then { r with headers := r.headers ++ [challenge] } else r

@[simp] theorem ofFailure_status (f : Failure) : (ofFailure f).status = f.status := by
  unfold ofFailure
  split <;> rfl

@[simp] theorem ofFailure_body (f : Failure) :
    (ofFailure f).body = Wire.write (ErrorBody.mk f.message) := by
  unfold ofFailure
  split <;> rfl

end Response

end TokenMint.Http
