/-! # Universally unique identifiers

Sixteen bytes written in lower-case hexadecimal, in groups of four, two, two, two and six bytes. In
a random one, version 4, six of the bits are fixed. -/

namespace TokenMint.Text.Uuid

/-- Fixes the bits that say that the rest is random. -/
def randomBytes (bs : List UInt8) : List UInt8 :=
  bs.mapIdx fun i b ↦
    if i = 6 then (b &&& 0x0F) ||| 0x40
    else if i = 8 then (b &&& 0x3F) ||| 0x80
    else b

def hexByte (b : UInt8) : List Char :=
  [Nat.digitChar (b.toNat / 16), Nat.digitChar (b.toNat % 16)]

/-- Bytes in hexadecimal, with a hyphen before the fifth, seventh, ninth and eleventh. -/
def writeFrom : Nat → List UInt8 → List Char
  | _, [] => []
  | i, b :: bs =>
    (if i = 4 ∨ i = 6 ∨ i = 8 ∨ i = 10 then ['-'] else []) ++ hexByte b ++ writeFrom (i + 1) bs

/-- The random identifier made from sixteen bytes. -/
def random (bs : List UInt8) : String := .ofList (writeFrom 0 (randomBytes bs))

def isHex (c : Char) : Bool := c.isDigit || ('a' ≤ c && c ≤ 'f')

/-- Whether a text is a random identifier in its one form. -/
def isRandom (s : String) : Bool :=
  let cs := s.toList
  cs.length = 36 && (cs.zipIdx.all fun (c, i) ↦
    if i = 8 ∨ i = 13 ∨ i = 18 ∨ i = 23 then c = '-'
    else if i = 14 then c = '4'
    else if i = 19 then c = '8' || c = '9' || c = 'a' || c = 'b'
    else isHex c)

end TokenMint.Text.Uuid
