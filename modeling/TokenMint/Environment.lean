import TokenMint.Text.Pieces

/-! # Deployment environments -/

namespace TokenMint

/-- Where the server runs. -/
inductive Environment where
  | development
  | production
  | testing
deriving DecidableEq, Repr

namespace Environment

/-- The name of an environment, on the wire and in reports. -/
def name : Environment → String
  | .development => "development"
  | .production => "production"
  | .testing => "testing"

/-- Names in any case, and short ones, are understood; any other name means development.
No letter outside ASCII has a small form spelt with the letters of these names alone. -/
def ofText (s : String) : Environment :=
  let s := Text.lower s
  if s = "production" ∨ s = "prod" then .production
  else if s = "testing" ∨ s = "test" then .testing
  else .development

/-- The environment with exactly this name. -/
def ofName? (s : String) : Option Environment :=
  [development, production, testing].find? (·.name = s)

def isProduction (e : Environment) : Bool := e = .production

theorem ofName?_name (e : Environment) : ofName? e.name = some e := by cases e <;> decide

end Environment

end TokenMint
