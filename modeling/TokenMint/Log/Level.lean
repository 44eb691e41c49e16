import TokenMint.Text.Decimal
import TokenMint.Text.Pieces

/-! # Levels

An event has a level. A threshold lets events through up to a level, or none at all. -/

namespace TokenMint.Log

/-- How grave or how detailed an event is, the gravest first. -/
inductive Level where
  | error
  | warn
  | info
  | debug
  | trace
deriving DecidableEq, Repr

namespace Level

def all : List Level := [error, warn, info, debug, trace]

/-- The number of a level: the more detailed, the higher. -/
def rank : Level → Nat
  | error => 1
  | warn => 2
  | info => 3
  | debug => 4
  | trace => 5

def name : Level → String
  | error => "ERROR"
  | warn => "WARN"
  | info => "INFO"
  | debug => "DEBUG"
  | trace => "TRACE"

end Level

/-- The most detailed level that is let through, if any is. -/
inductive Threshold where
  | off
  | upTo (l : Level)
deriving DecidableEq, Repr

namespace Threshold

def rank : Threshold → Nat
  | off => 0
  | upTo l => l.rank

/-- Whether events of a level are let through. -/
def allows (t : Threshold) (l : Level) : Bool := l.rank ≤ t.rank

def all : List Threshold := off :: Level.all.map upTo

/-- The name of a threshold. -/
def name : Threshold → String
  | off => "off"
  | upTo l => Text.lower l.name

/-- Sixty-four unsigned bits. -/
def numberRange : Text.Decimal.Range := ⟨0, 18446744073709551615⟩

/-- The threshold with a number. -/
def ofNumber? (s : String) : Option Threshold :=
  match Text.Decimal.read numberRange s with
  | .ok n => all.find? fun t ↦ (t.rank : Int) = n
  | .error _ => none

/-- The threshold with a number or with a name, which may be written in any case. -/
def ofText? (s : String) : Option Threshold :=
  (ofNumber? s).or (all.find? (·.name = Text.lower s))

end Threshold

end TokenMint.Log
