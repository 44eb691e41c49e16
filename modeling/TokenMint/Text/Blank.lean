/-! # Blank characters and trimming

A character is blank when Unicode gives it the property `White_Space`; trimming takes the blanks off
both ends of a text and nothing else. -/

namespace TokenMint.Text

/-- The characters with the Unicode property `White_Space`. -/
def isBlank (c : Char) : Bool :=
  let n := c.toNat
  (0x09 ≤ n && n ≤ 0x0D) || n == 0x20 || n == 0x85 || n == 0xA0 || n == 0x1680
    || (0x2000 ≤ n && n ≤ 0x200A) || n == 0x2028 || n == 0x2029 || n == 0x202F || n == 0x205F
    || n == 0x3000

/-- The blanks at the start go, and by symmetry those at the end. -/
def trimChars (cs : List Char) : List Char :=
  ((cs.dropWhile isBlank).reverse.dropWhile isBlank).reverse

/-- A text as what comes before the blanks at its end, and these blanks. -/
def cutEnd (cs : List Char) : List Char × List Char :=
  ((cs.reverse.dropWhile isBlank).reverse, (cs.reverse.takeWhile isBlank).reverse)

/-- A text without the blanks around it. -/
def trim (s : String) : String := .ofList (trimChars s.toList)

theorem cutEnd_append (cs : List Char) : (cutEnd cs).1 ++ (cutEnd cs).2 = cs := by
  rw [cutEnd, ← List.reverse_append, List.takeWhile_append_dropWhile, List.reverse_reverse]

end TokenMint.Text
