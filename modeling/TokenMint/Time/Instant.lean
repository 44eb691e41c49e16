import TokenMint.Time.Calendar

/-! # Instants

An instant is a second, counted from the start of 1970 in universal time, and the nanoseconds that
have gone of it. Leap seconds are not counted: one lengthens the last second of its minute to
two. -/

namespace TokenMint

/-- A point in time. -/
structure Instant where
  second : Int
  nanos : Nat := 0
deriving DecidableEq, Repr

namespace Instant

/-- Instants are ordered by their seconds, and within a second by its nanoseconds. -/
instance : LE Instant :=
  ⟨fun a b ↦ a.second < b.second ∨ (a.second = b.second ∧ a.nanos ≤ b.nanos)⟩

instance (a b : Instant) : Decidable (a ≤ b) := inferInstanceAs (Decidable (_ ∨ _))

theorem le_iff {a b : Instant} :
    a ≤ b ↔ a.second < b.second ∨ (a.second = b.second ∧ a.nanos ≤ b.nanos) := .rfl

/-- Nanoseconds in a second. -/
def nanosPerSecond : Int := 1000000000

/-- Whether a second is long enough for the nanoseconds gone of it. -/
def fits (a : Instant) : Bool :=
  a.nanos < nanosPerSecond || (a.second % 60 = 59 && a.nanos < 2 * nanosPerSecond)

/-- The instant that lies so far in a second, if there is one in the calendar. -/
def ofSecond? (second : Int) (nanos : Nat) : Option Instant :=
  let a : Instant := { second, nanos }
  if Date.firstDay ≤ second.fdiv 86400 ∧ second.fdiv 86400 ≤ Date.lastDay ∧ a.fits then some a
  else none

/-- The instant some seconds later. -/
def later (a : Instant) (secs : Int) : Instant := { a with second := a.second + secs }

/-- The nanoseconds from one instant to another, leap seconds not counted. -/
def since (a b : Instant) : Int :=
  (a.second - b.second) * nanosPerSecond + (a.nanos - b.nanos)

theorem later_since (a : Instant) (m n : Int) :
    (a.later m).since (a.later n) = (m - n) * nanosPerSecond := by
  simp only [since, later, nanosPerSecond]
  omega

end Instant

end TokenMint
