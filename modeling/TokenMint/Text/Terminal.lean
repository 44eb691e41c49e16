/-! # Text for a terminal

A terminal acts on some characters instead of showing them: it rings, moves back or changes its
colours. These are written by their number in lower-case hexadecimal. Blanks and ends of lines stay
as they are. -/

namespace TokenMint.Text.Terminal

/-- The seven-bit characters that are written by two digits. -/
def signals : List Char := ['\x07', '\x08', '\x0c', '\x1b', '\x7f']

/-- How one character is shown. -/
def escape (c : Char) : List Char :=
  let digits := Nat.toDigits 16 c.toNat
  if c ∈ signals then '\\' :: 'x' :: (List.replicate (2 - digits.length) '0' ++ digits)
  else if 0x80 ≤ c.toNat ∧ c.toNat ≤ 0x9F then '\\' :: 'u' :: '\x7b' :: digits ++ ['\x7d']
  else [c]

/-- A text as a terminal may show it. -/
def shown (s : String) : String := .ofList (s.toList.flatMap escape)

end TokenMint.Text.Terminal
