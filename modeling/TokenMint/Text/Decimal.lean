import TokenMint.Text.Blank

/-! # Bounded decimal integers

A decimal integer is an optional sign and at least one ASCII digit. Reading one against a range
gives its value, or the first thing that is wrong with it when its characters are taken from left
to right. A minus sign belongs to the numeral only where the range holds negative numbers. -/

namespace TokenMint.Text.Decimal

/-- What can be wrong with a numeral. -/
inductive Fault where
  | empty
  | invalidDigit
  | tooLarge
  | tooSmall
deriving DecidableEq, Repr

/-- The wording of a fault. -/
def Fault.message : Fault → String
  | .empty => "cannot parse integer from empty string"
  | .invalidDigit => "invalid digit found in string"
  | .tooLarge => "number too large to fit in target type"
  | .tooSmall => "number too small to fit in target type"

/-- The integers from `low` to `high`. -/
structure Range where
  low : Int
  high : Int
deriving DecidableEq, Repr

namespace Range

instance : Membership Int Range := ⟨fun r n ↦ r.low ≤ n ∧ n ≤ r.high⟩

instance (n : Int) (r : Range) : Decidable (n ∈ r) := inferInstanceAs (Decidable (_ ∧ _))

theorem mem_iff {n : Int} {r : Range} : n ∈ r ↔ r.low ≤ n ∧ n ≤ r.high := .rfl

/-- Sixteen unsigned bits. -/
def word16 : Range := ⟨0, 65535⟩

/-- Thirty-two unsigned bits. -/
def word32 : Range := ⟨0, 4294967295⟩

/-- Sixty-four signed bits. -/
def signed64 : Range := ⟨-9223372036854775808, 9223372036854775807⟩

end Range

/-- The value of an ASCII digit. -/
def digit? (c : Char) : Option Nat :=
  if c.isDigit then some (c.toNat - '0'.toNat) else none

/-- Digits read on top of the value `n`, which may not pass `limit`; passing it is `excess`. -/
def magnitude (limit : Nat) (excess : Fault) (n : Nat) : List Char → Except Fault Nat
  | [] => .ok n
  | c :: cs =>
    match digit? c with
    | none => .error .invalidDigit
    | some d => if 10 * n + d ≤ limit then magnitude limit excess (10 * n + d) cs else .error excess

/-- A numeral within the range `r`. -/
def readChars (r : Range) : List Char → Except Fault Int
  | [] => .error .empty
  | ['+'] | ['-'] => .error .invalidDigit
  | '+' :: cs => Int.ofNat <$> magnitude r.high.toNat .tooLarge 0 cs
  | '-' :: cs =>
    if r.low < 0 then (fun n : Nat ↦ -(n : Int)) <$> magnitude r.low.natAbs .tooSmall 0 cs
    else .error .invalidDigit
  | cs => Int.ofNat <$> magnitude r.high.toNat .tooLarge 0 cs

def read (r : Range) (s : String) : Except Fault Int := readChars r s.toList

/-- A port number: sixteen bits. -/
def readWord16 (s : String) : Except Fault UInt16 := (fun n ↦ .ofNat n.toNat) <$> read .word16 s

/-- A count: thirty-two bits. -/
def readWord32 (s : String) : Except Fault UInt32 := (fun n ↦ .ofNat n.toNat) <$> read .word32 s

@[simp] theorem digit?_eq_none {c : Char} : digit? c = none ↔ c.isDigit = false := by
  simp [digit?]

end TokenMint.Text.Decimal
