import TokenMint.Double
import TokenMint.Text.Decimal
import TokenMint.Text.Numeral
import TokenMint.Time.Timestamp

/-! # Expiries as they are stored

The column for expiries would rather hold numbers than texts: a text that is a numeral becomes one.
A whole number counts seconds, any other the days of astronomers, which begin at noon. -/

namespace TokenMint.Store

/-- An expiry as it is stored: an instant, or a text that someone else has put there. -/
inductive Expiry where
  | instant (t : Instant)
  | written (s : String)
deriving DecidableEq, Repr

namespace Expiry

/-- The start of 1970 in days. -/
def epoch : Rat := mkRat 4881175 2

def secondsPerDay : Rat := Rat.ofInt 86400

/-- The instant after so many days, computed in double precision. Before the start of 1970 its
nanoseconds still count forward from its second. -/
def ofDays? (days : Rat) : Option Instant :=
  let t := Double.nearest (Double.nearest (days - epoch) * secondsPerDay)
  let second := t.num.tdiv t.den
  let nanos :=
    Double.nearest ((t - Rat.ofInt second) * Rat.ofInt Instant.nanosPerSecond)
  Instant.ofSecond? second (nanos.num.natAbs / nanos.den)

/-- The whole number that is kept of a numeral, if one is. -/
def whole? (n : Text.Numeral) : Option Int :=
  if n.bare ∧ n.signed ∈ Text.Decimal.Range.signed64 then some n.signed
  else
    let x := Double.nearest n.value
    if x.den = 1 ∧ x.num ∈ Text.Decimal.Range.signed64 then some x.num else none

/-- The instant that a numeral stands for, if the calendar has it. -/
def ofNumeral? (n : Text.Numeral) : Option Instant :=
  match whole? n with
  | some second => Instant.ofSecond? second 0
  | none => ofDays? (Double.nearest n.value)

/-- The instant of an expiry, if it has one. -/
def instant? : Expiry → Option Instant
  | instant t => some t
  | written s =>
    match Text.Numeral.read? s with
    | some n => ofNumeral? n
    | none => Timestamp.read? s

end Expiry

end TokenMint.Store
