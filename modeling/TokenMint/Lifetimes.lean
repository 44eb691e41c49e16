/-! # Token lifetimes -/

namespace TokenMint

/-- How long the two tokens of a pair live, in seconds. -/
structure Lifetimes where
  access : Int
  refresh : Int
deriving DecidableEq, Repr

namespace Lifetimes

/-- The longest lifetime: ten years of 365 days. -/
def longest : Int := 315360000

/-- A lifetime lasts from one second to the longest. -/
def Allowed (secs : Int) : Prop := 1 ≤ secs ∧ secs ≤ longest

instance (secs : Int) : Decidable (Allowed secs) := inferInstanceAs (Decidable (_ ∧ _))

/-- The lifetime that is out of bounds. -/
inductive Fault where
  | access
  | refresh
deriving DecidableEq, Repr

/-- The wording of a fault. -/
def Fault.message (f : Fault) : String :=
  (match f with | .access => "ACCESS_TOKEN_LIFETIME" | .refresh => "REFRESH_TOKEN_LIFETIME")
    ++ " must be between 1 and " ++ toString longest ++ " seconds"

/-- Both lifetimes have to be allowed; the access lifetime is looked at first. -/
def make (access refresh : Int) : Except Fault Lifetimes :=
  if ¬ Allowed access then .error .access
  else if ¬ Allowed refresh then .error .refresh
  else .ok { access, refresh }

theorem make_eq_ok {a r : Int} {l : Lifetimes} :
    make a r = .ok l ↔ Allowed a ∧ Allowed r ∧ l = ⟨a, r⟩ := by
  unfold make
  split
  · simp_all
  · split <;> simp_all [eq_comm]

end Lifetimes

end TokenMint
