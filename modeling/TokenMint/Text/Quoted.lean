import TokenMint.Text.Invisible

/-! # Quoted text

A text between double quotes, on one line and unambiguous: quotes and backslashes are escaped, the
usual controls have short escapes, and any other character that does not show is written by its
code point in lower-case hexadecimal between braces. -/

namespace TokenMint.Text.Quoted

/-- How one character stands between the quotes. -/
def escape (c : Char) : List Char :=
  match c with
  | '\x00' => ['\\', '0']
  | '\t' => ['\\', 't']
  | '\r' => ['\\', 'r']
  | '\n' => ['\\', 'n']
  | '"' => ['\\', '"']
  | '\\' => ['\\', '\\']
  | _ =>
    if isInvisible c then '\\' :: 'u' :: '\x7b' :: Nat.toDigits 16 c.toNat ++ ['\x7d'] else [c]

def encode (cs : List Char) : List Char := '"' :: cs.flatMap escape ++ ['"']

/-- The quoted form of a text. -/
def quote (s : String) : String := .ofList (encode s.toList)

end TokenMint.Text.Quoted
