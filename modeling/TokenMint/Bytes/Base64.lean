/-! # Bytes as text, six bits to a character

Three bytes are written with four characters of an alphabet of sixty-four. A last group of one or
two bytes takes two or three characters, and a padded coding fills it up to four. Reading accepts
exactly what writing produces: it wants the padding where the coding has it and nowhere else, and
refuses a last character with bits that no byte has. -/

namespace TokenMint.Bytes

/-- A coding of bytes as text. -/
structure Base64 where
  alphabet : List Char
  padded : Bool

namespace Base64

/-- The usual alphabet, with padding. -/
def standard : Base64 where
  alphabet := "ABCDEFGHIJKLMNOPQRSTUVWXYZabcdefghijklmnopqrstuvwxyz0123456789+/".toList
  padded := true

variable (k : Base64)

/-- The value of a character. -/
def value? (c : Char) : Option Nat := k.alphabet.idxOf? c

/-- The character of a value. -/
def digit (n : Nat) : Char := k.alphabet.getD (n % 64) 'A'

/-- The characters that fill up a last group. -/
def padding (n : Nat) : List Char := if k.padded then List.replicate n '=' else []

def encode : List UInt8 → List Char
  | [] => []
  | [a] => k.digit (a.toNat / 4) :: k.digit (a.toNat % 4 * 16) :: k.padding 2
  | [a, b] =>
    k.digit (a.toNat / 4) :: k.digit (a.toNat % 4 * 16 + b.toNat / 16)
      :: k.digit (b.toNat % 16 * 4) :: k.padding 1
  | a :: b :: c :: r =>
    k.digit (a.toNat / 4) :: k.digit (a.toNat % 4 * 16 + b.toNat / 16)
      :: k.digit (b.toNat % 16 * 4 + c.toNat / 64) :: k.digit (c.toNat % 64) :: encode r

/-- The byte of two values of which the second has four bits too many. -/
def lastOne (x y : Nat) : Option (List UInt8) :=
  if y % 16 = 0 then some [.ofNat (x * 4 + y / 16)] else none

/-- The bytes of three values of which the third has two bits too many. -/
def lastTwo (x y z : Nat) : Option (List UInt8) :=
  if z % 4 = 0 then some [.ofNat (x * 4 + y / 16), .ofNat (y % 16 * 16 + z / 4)] else none

/-- The bytes of four values. -/
def three (x y z w : Nat) : List UInt8 :=
  [.ofNat (x * 4 + y / 16), .ofNat (y % 16 * 16 + z / 4), .ofNat (z % 4 * 64 + w)]

/-- Bytes written without padding. -/
def decodeBare : List Char → Option (List UInt8)
  | [] => some []
  | [_] => none
  | [a, b] => do lastOne (← k.value? a) (← k.value? b)
  | [a, b, c] => do lastTwo (← k.value? a) (← k.value? b) (← k.value? c)
  | a :: b :: c :: d :: r => do
    return three (← k.value? a) (← k.value? b) (← k.value? c) (← k.value? d) ++ (← decodeBare r)

/-- Bytes written with padding. -/
def decodePadded : List Char → Option (List UInt8)
  | [] => some []
  | [a, b, '=', '='] => do lastOne (← k.value? a) (← k.value? b)
  | [a, b, c, '='] => do lastTwo (← k.value? a) (← k.value? b) (← k.value? c)
  | a :: b :: c :: d :: r => do
    return three (← k.value? a) (← k.value? b) (← k.value? c) (← k.value? d) ++ (← decodePadded r)
  | _ => none

/-- The bytes that a text stands for. -/
def decode (cs : List Char) : Option (List UInt8) :=
  if k.padded then k.decodePadded cs else k.decodeBare cs

end Base64

end TokenMint.Bytes
