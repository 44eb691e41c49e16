/-! # Writing JSON

A value is written without blanks. In a text, quotes, backslashes and the control characters are
escaped, five of these with a letter and the rest by number; every other character stands for
itself. -/

namespace TokenMint.Json

/-- A JSON value, as far as this library writes them. -/
inductive Tree where
  | int (n : Int)
  | bool (b : Bool)
  | text (s : String)
  | object (members : List (String × Tree))

/-- A digit of base 16. -/
def hexDigit (n : Nat) : Char := Nat.digitChar (n % 16)

/-- How one character stands in a written text. -/
def escape (c : Char) : List Char :=
  if c = '"' then ['\\', '"']
  else if c = '\\' then ['\\', '\\']
  else if c.toNat < 0x20 then
    match c.toNat with
    | 0x08 => ['\\', 'b']
    | 0x09 => ['\\', 't']
    | 0x0A => ['\\', 'n']
    | 0x0C => ['\\', 'f']
    | 0x0D => ['\\', 'r']
    | n => ['\\', 'u', '0', '0', hexDigit (n / 16), hexDigit n]
  else [c]

/-- A text between quotes. -/
def writeText (cs : List Char) : List Char := '"' :: cs.flatMap escape ++ ['"']

def writeInt (n : Int) : List Char :=
  if n < 0 then '-' :: Nat.toDigits 10 n.natAbs else Nat.toDigits 10 n.natAbs

namespace Tree

mutual

/-- A value as written. -/
def write : Tree → List Char
  | int n => writeInt n
  | bool b => if b then "true".toList else "false".toList
  | text s => writeText s.toList
  | object [] => ['\x7b', '\x7d']
  | object ((name, t) :: ms) =>
    '\x7b' :: writeText name.toList ++ ':' :: t.write ++ writeMembers ms ++ ['\x7d']

/-- Further members of an object, each after a comma. -/
def writeMembers : List (String × Tree) → List Char
  | [] => []
  | (name, t) :: ms => ',' :: writeText name.toList ++ ':' :: t.write ++ writeMembers ms

end

/-- A value as a text. -/
def render (t : Tree) : String := .ofList t.write

end Tree

theorem escape_eq_self {c : Char} (quote : c ≠ '"') (slash : c ≠ '\\') (high : 0x20 ≤ c.toNat) :
    escape c = [c] := by
  simp [escape, quote, slash, Nat.not_lt.2 high]

end TokenMint.Json
