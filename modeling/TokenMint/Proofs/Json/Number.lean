import Mathlib.Data.List.TakeDrop
import TokenMint.Json.Tree
import TokenMint.Proofs.Json.Text

/-! # Integers are read back as they were written

An integer is written with its digits and nothing else, so that it is neither taken for a real nor
for a number with a zero in front; and the reader, which goes on as long as there are digits, stops
where the integer has stopped, for whatever comes after a value in a written text is no digit. -/

namespace TokenMint.Json

open Text.Decimal (Range)

/-- What can come after a value in a written text: its end, a comma or a closing brace. -/
def Ends (cs : List Char) : Prop := ∀ c ∈ cs.head?, c = ',' ∨ c = '\x7d'

theorem Ends.nil : Ends [] := nofun

theorem Ends.comma (cs : List Char) : Ends (',' :: cs) := by simp [Ends]

theorem Ends.brace (cs : List Char) : Ends ('\x7d' :: cs) := by simp [Ends]

/-! ## Digits -/

theorem digitsValue_toDigits (n : Nat) : digitsValue (Nat.toDigits 10 n) = n := by
  exact Nat.ofDigitChars_eq_foldl.symm.trans Nat.ofDigitChars_ten_toDigits

/-- There is no zero in front. -/
theorem ne_zero_of_toDigits_eq_cons {n : Nat} (hn : n ≠ 0) {c : Char} {r : List Char}
    (h : Nat.toDigits 10 n = c :: r) : c ≠ '0' := by
  induction n using Nat.strongRecOn generalizing c r with
  | ind n ih =>
    rw [Nat.toDigits_eq_if (by decide)] at h
    split at h
    · obtain ⟨rfl, -⟩ := List.cons.inj h
      exact mt Nat.digitChar_eq_zero.mp hn
    · obtain ⟨d, r', hhigh⟩ := List.exists_cons_of_ne_nil
        (Nat.toDigits_ne_nil (n := n / 10) (b := 10))
      rw [hhigh, List.cons_append] at h
      obtain ⟨rfl, -⟩ := List.cons.inj h
      exact ih (n / 10) (by omega) (by omega) hhigh

theorem span_isDigit {ds rest : List Char} (hds : ∀ c ∈ ds, c.isDigit) (hrest : Ends rest) :
    (ds ++ rest).span Char.isDigit = (ds, rest) := by
  have hstop : rest.takeWhile Char.isDigit = [] ∧ rest.dropWhile Char.isDigit = rest := by
    cases rest with
    | nil => exact ⟨rfl, rfl⟩
    | cons c rest =>
      have hc : c.isDigit = false := by
        rcases hrest c rfl with rfl | rfl <;> rfl
      exact ⟨List.takeWhile_cons_of_neg (by simp [hc]), List.dropWhile_cons_of_neg (by simp [hc])⟩
  rw [List.span_eq_takeWhile_dropWhile, List.takeWhile_append_of_pos hds,
    List.dropWhile_append_of_pos hds, hstop.1, hstop.2, List.append_nil]

/-- Nothing that ends a value belongs to a number. -/
theorem afterWhole_of_ends {rest : List Char} (h : Ends rest) (negative : Bool) (ds : List Char) :
    afterWhole negative ds rest = wholeNumber negative ds rest := by
  unfold afterWhole
  split
  · simp [Ends] at h
  · simp [Ends] at h
  · simp [Ends] at h
  · rfl

theorem unsignedNumber_toDigits (negative : Bool) (n : Nat) {rest : List Char} (h : Ends rest) :
    unsignedNumber negative (Nat.toDigits 10 n ++ rest) =
      wholeNumber negative (Nat.toDigits 10 n) rest := by
  have hdigits : ∀ c ∈ Nat.toDigits 10 n, c.isDigit :=
    fun c hc ↦ Nat.isDigit_of_mem_toDigits (by decide) (by decide) hc
  rw [unsignedNumber, span_isDigit hdigits h]
  split
  · rename_i heq
    exact absurd (Prod.mk.inj heq).1 Nat.toDigits_ne_nil
  · rename_i heq
    have hzero := (Prod.mk.inj heq).1
    have hn : n ≠ 0 := by
      rintro rfl
      cases hzero
    exact absurd rfl (ne_zero_of_toDigits_eq_cons hn hzero)
  · rename_i heq
    obtain ⟨rfl, rfl⟩ := Prod.mk.inj heq
    exact afterWhole_of_ends h ..

/-! ## Integers -/

/-- An integer of 64 bits is read as what it was, where its range allows it. -/
theorem int_writeInt {range : Range} {n : Int} (h64 : n ∈ Range.signed64) (hn : n ∈ range)
    {rest : List Char} (hrest : Ends rest) :
    Reader.int range (writeInt n ++ rest) = .ok (n, rest) := by
  obtain ⟨hlow, hhigh⟩ := Range.mem_iff.mp h64
  simp only [Range.signed64] at hlow hhigh
  unfold writeInt
  split
  · rename_i hneg
    have hvalue : unsignedNumber true (Nat.toDigits 10 n.natAbs ++ rest) = .ok (.int n, rest) := by
      have habs : -(n.natAbs : Int) = n := by omega
      rw [unsignedNumber_toDigits _ _ hrest, wholeNumber, digitsValue_toDigits]
      simp only [if_true, habs]
      rw [if_pos ⟨by omega, by simp; omega⟩]
    rw [List.cons_append, Reader.int, afterGaps, dropGaps_cons rfl]
    simp only [hvalue, Reader.inRange, if_pos hn]
  · have hvalue : unsignedNumber false (Nat.toDigits 10 n.natAbs ++ rest) = .ok (.int n, rest) := by
      have habs : (n.natAbs : Int) = n := by omega
      rw [unsignedNumber_toDigits _ _ hrest, wholeNumber, digitsValue_toDigits]
      simp only [Bool.false_eq_true, if_false, habs]
      rw [if_pos (by simp; omega)]
    obtain ⟨c, r, hdigits⟩ := List.exists_cons_of_ne_nil
      (Nat.toDigits_ne_nil (n := n.natAbs) (b := 10))
    have hc : c.isDigit :=
      Nat.isDigit_of_mem_toDigits (by decide) (by decide) (hdigits ▸ List.mem_cons_self)
    have hgap : isGap c = false := by
      simp only [isGap, Bool.or_eq_false_iff, decide_eq_false_iff_not]
      refine ⟨⟨⟨?_, ?_⟩, ?_⟩, ?_⟩ <;> (rintro rfl; cases hc)
    have hminus : c ≠ '-' := by
      rintro rfl
      cases hc
    rw [hdigits, List.cons_append] at hvalue ⊢
    rw [Reader.int, afterGaps, dropGaps_cons hgap]
    simp only [hc, if_true, hvalue, Reader.inRange, if_pos hn]

end TokenMint.Json
