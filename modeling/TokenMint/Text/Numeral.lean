/-! # Decimal numerals

A numeral is a row of ASCII digits. It may have a sign before it, a point at its start, in it or at
its end, and a power of ten after it; blanks around it do not count. -/

namespace TokenMint.Text

/-- A decimal number as it is written. -/
structure Numeral where
  negative : Bool
  /-- All the digits, without the point. -/
  digits : Nat
  /-- The power of ten that the last digit stands for. -/
  exponent : Int
  /-- Whether there is neither a point nor a power of ten. -/
  bare : Bool
deriving DecidableEq, Repr

namespace Numeral

/-- The number with its sign, without its power of ten. -/
def signed (n : Numeral) : Int := if n.negative then -n.digits else n.digits

def value (n : Numeral) : Rat :=
  if 0 ≤ n.exponent then Rat.ofInt (n.signed * Nat.pow 10 n.exponent.toNat)
  else mkRat n.signed (Nat.pow 10 n.exponent.natAbs)

/-- The ASCII blanks. -/
def isSpace (c : Char) : Bool := c = ' ' || ('\t' ≤ c && c ≤ '\x0d')

/-- A sign, if one is there. -/
def readSign : List Char → Bool × List Char
  | '-' :: cs => (true, cs)
  | '+' :: cs => (false, cs)
  | cs => (false, cs)

/-- The number that digits stand for. -/
def ofDigits (ds : List Char) : Nat := ds.foldl (fun n d ↦ 10 * n + (d.toNat - 48)) 0

/-- The greatest power of ten, up or down; what is written beyond it counts the same. -/
def powerLimit : Nat := 10000

/-- The power of ten at the end, if one is there. It is no numeral that has the letter alone. -/
def readPower (cs : List Char) : Option (Option Int × List Char) :=
  match cs with
  | 'e' :: r | 'E' :: r =>
    let (negative, r) := readSign r
    let (ds, rest) := r.span Char.isDigit
    if ds = [] then none
    else
      let n : Int := min (ofDigits ds) powerLimit
      some (some (if negative then -n else n), rest)
  | _ => some (none, cs)

/-- The digits after a point, if there is one. -/
def readPlaces : List Char → Option (List Char) × List Char
  | '.' :: r => (some (r.takeWhile Char.isDigit), r.dropWhile Char.isDigit)
  | cs => (none, cs)

/-- The numeral that is written, if one is. -/
def read? (s : String) : Option Numeral := do
  let (negative, cs) := readSign (s.toList.dropWhile isSpace)
  let (whole, cs) := cs.span Char.isDigit
  let (places, cs) := readPlaces cs
  let digits := whole ++ places.getD []
  let (power, cs) ← readPower cs
  guard (digits ≠ [] ∧ cs.all isSpace)
  return {
    negative
    digits := ofDigits digits
    exponent := power.getD 0 - (places.getD []).length
    bare := places.isNone && power.isNone }

end Numeral

end TokenMint.Text
