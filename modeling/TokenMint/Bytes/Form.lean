import TokenMint.Bytes.Utf8
import TokenMint.Text.Pieces

/-! # Forms

A form is a row of fields between ampersands, each a name and a value around the first equals sign.
In both a plus stands for a blank, and a percent sign with two hexadecimal digits for a byte. -/

namespace TokenMint.Bytes.Form

/-- The value of a byte as a hexadecimal digit. -/
def hexValue? (b : UInt8) : Option UInt8 :=
  if 0x30 ≤ b ∧ b ≤ 0x39 then some (b - 0x30)
  else if 0x41 ≤ b ∧ b ≤ 0x46 then some (b - 0x37)
  else if 0x61 ≤ b ∧ b ≤ 0x66 then some (b - 0x57)
  else none

/-- The byte that two hexadecimal digits stand for. -/
def hexByte? (a b : UInt8) : Option UInt8 := do return (← hexValue? a) * 16 + (← hexValue? b)

/-- Bytes with the percent signs taken out, put after those of `done`, last first. A percent sign
without two digits stands for itself. -/
def percentFrom (done : List UInt8) : List UInt8 → List UInt8
  | [] => done.reverse
  | p :: r =>
    if p = 0x25 then
      match r with
      | a :: b :: s =>
        match hexByte? a b with
        | some x => percentFrom (x :: done) s
        | none => percentFrom (p :: done) (a :: b :: s)
      | r => percentFrom (p :: done) r
    else percentFrom (p :: done) r
termination_by bs => bs.length

/-- The bytes that percent-coded ones stand for. -/
def percentDecode (bs : List UInt8) : List UInt8 := percentFrom [] bs

/-- A name or a value as its text. -/
def part (bs : List UInt8) : String :=
  Utf8.lossy (percentDecode (bs.map fun b ↦ if b = 0x2B then 0x20 else b))

/-- The fields of a form, their names read and their values as they stand. -/
def fields (bs : List UInt8) : List (String × List UInt8) :=
  ((Pieces.split 0x26 bs).filter (· ≠ [])).map fun piece ↦
    let (name, value) := Pieces.cut 0x3D piece
    (part name, value.getD [])

/-- The names and values of a form. -/
def pairs (bs : List UInt8) : List (String × String) :=
  (fields bs).map fun f ↦ (f.1, part f.2)

end TokenMint.Bytes.Form
