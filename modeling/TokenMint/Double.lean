/-! # Numbers of double precision

A number of double precision has fifty-three binary digits, and none of them stands for less than
two to the power of minus 1074. A fraction is rounded to the nearest such number, and to the one
whose last digit is even when two are as near. -/

namespace TokenMint.Double

/-- The whole number nearest to a fraction; of two that are as near, the even one. -/
def roundEven (x : Rat) : Int :=
  let n := x.num / x.den
  let r := x.num % x.den
  if 2 * r < x.den then n
  else if x.den < 2 * r then n + 1
  else if n % 2 = 0 then n
  else n + 1

/-- A fraction times a power of two. -/
def scale (x : Rat) (e : Int) : Rat :=
  if 0 ≤ e then mkRat (x.num * Nat.pow 2 e.toNat) x.den
  else mkRat x.num (x.den * Nat.pow 2 e.natAbs)

/-- The power of two that the first binary digit of a fraction stands for. -/
def firstPlace (x : Rat) : Int :=
  let e : Int := (x.num.natAbs.log2 : Int) - x.den.log2
  let y := scale x (-e)
  if y.num.natAbs < y.den then e - 1 else e

/-- The power of two that the last digit stands for once the fraction has been rounded. -/
def lastPlace (x : Rat) : Int := max (-1074) (firstPlace x - 52)

/-- The number of double precision nearest to a fraction, however large that is. -/
def nearest (x : Rat) : Rat :=
  let e := lastPlace x
  scale (Rat.ofInt (roundEven (scale x (-e)))) e

/-- The least fraction that is too large: from there on, rounding would need a larger exponent. -/
def limit : Rat := Rat.ofInt (Nat.pow 2 1024 - Nat.pow 2 970)

end TokenMint.Double
