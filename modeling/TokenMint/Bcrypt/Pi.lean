/-! # The binary digits of π

The cipher's boxes start out as the first binary digits of the fraction of π. They are computed
from `π = 16 arctan (1/5) - 4 arctan (1/239)`, with enough guard digits that what is cut off in the
series does not reach the digits that are used. -/

namespace TokenMint.Bcrypt.Pi

/-- An alternating series `p/k - p/x²/(k+2) + …` of so many terms, in whole numbers. -/
def series (square : Nat) : Nat → Nat → Nat → Nat
  | 0, _, _ => 0
  | n + 1, p, k => p / k - series square n (p / square) (k + 2)

/-- The arctangent of `1/x` on a scale of `unit`. -/
def arctan (terms x unit : Nat) : Nat := series (x * x) terms (unit / x) 1

/-- The number of digits in use: 18 words, and four boxes of 256 words. -/
def digits : Nat := (18 + 4 * 256) * 32

def guard : Nat := 64

/-- The fraction of π on a scale of two to the number of digits. -/
def fraction : Nat :=
  let unit := Nat.pow 2 (digits + guard)
  (16 * arctan 7300 5 unit - 4 * arctan 2200 239 unit) % unit / Nat.pow 2 guard

/-- The digits as words of thirty-two. -/
def words : Array UInt32 :=
  Array.ofFn fun i : Fin (18 + 4 * 256) ↦ .ofNat (fraction >>> (digits - 32 * (i + 1)))

end TokenMint.Bcrypt.Pi
