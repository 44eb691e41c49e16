/-! # Tables

A table holds rows in the order in which they came, and the last number it has given to one. Numbers
are never given out twice, not even after a row is gone. -/

namespace TokenMint.Store

/-- Rows, and the number of the last one that was added. -/
structure Table (ρ : Type) where
  rows : List ρ := []
  last : Int := 0
deriving DecidableEq, Repr

namespace Table

variable {ρ : Type}

/-- The number of the next row. -/
def next (t : Table ρ) : Int := t.last + 1

/-- The table with one more row, made from its number. -/
def add (t : Table ρ) (row : Int → ρ) : Table ρ :=
  { rows := t.rows ++ [row t.next], last := t.next }

/-- The table with the rows that pass a test. -/
def keep (t : Table ρ) (p : ρ → Bool) : Table ρ := { t with rows := t.rows.filter p }

@[simp] theorem rows_add (t : Table ρ) (row : Int → ρ) :
    (t.add row).rows = t.rows ++ [row t.next] := rfl

@[simp] theorem last_add (t : Table ρ) (row : Int → ρ) : (t.add row).last = t.next := rfl

@[simp] theorem rows_keep (t : Table ρ) (p : ρ → Bool) : (t.keep p).rows = t.rows.filter p := rfl

end Table

end TokenMint.Store
