import TokenMint.Json.Record
import TokenMint.Json.Tree

/-! # Texts are read back as they were written

The characters of a text are escaped one by one, so the round trip is one character long: whatever
`escape` makes of a character, the reader makes that character of it again and goes on.  Objects
whose values are texts come after it, as far as they have one member. -/

namespace TokenMint.Json

/-! ## One character -/

theorem hexValue?_hexDigit (n : Nat) : hexValue? (hexDigit n) = some (n % 16) := by
  have hall : ∀ m < 16, hexValue? (Nat.digitChar m) = some m := by decide
  exact hall (n % 16) (Nat.mod_lt n (by decide))

/-- The number of a control character takes two digits. -/
theorem hexUnit_hexDigit {n : Nat} (h : n < 256) (r : List Char) :
    hexUnit ('0' :: '0' :: hexDigit (n / 16) :: hexDigit n :: r) = .ok (n, r) := by
  have hzero : hexValue? '0' = some 0 := rfl
  have hsplit : n / 16 % 16 * 16 + n % 16 = n := by omega
  simp only [hexUnit, hzero, hexValue?_hexDigit, Nat.zero_mul, Nat.zero_add, hsplit]

theorem numbered_hexDigit {c : Char} (h : c.toNat < 0x20) (r : List Char) :
    numbered ('0' :: '0' :: hexDigit (c.toNat / 16) :: hexDigit c.toNat :: r) = .ok (c, r) := by
  have htrailing : isTrailing c.toNat = false := by
    simp only [isTrailing, Bool.and_eq_false_iff, decide_eq_false_iff_not]
    omega
  have hleading : isLeading c.toNat = false := by
    simp only [isLeading, Bool.and_eq_false_iff, decide_eq_false_iff_not]
    omega
  simp [numbered, hexUnit_hexDigit (n := c.toNat) (by omega), htrailing, hleading,
    Char.ofNat_toNat]

/-- A character stands for itself, or a backslash and what is escaped by it stand for it. -/
theorem escape_cases (c : Char) :
    (escape c = [c] ∧ c ≠ '"' ∧ c ≠ '\\' ∧ 0x20 ≤ c.toNat) ∨
      ∃ e, escape c = '\\' :: e ∧ ∀ r, escaped (e ++ r) = .ok (c, r) := by
  by_cases hquote : c = '"'
  · subst hquote
    exact .inr ⟨['"'], rfl, fun _ ↦ rfl⟩
  by_cases hslash : c = '\\'
  · subst hslash
    exact .inr ⟨['\\'], rfl, fun _ ↦ rfl⟩
  by_cases hlow : c.toNat < 0x20
  · right
    have hc {n : Nat} (h : c.toNat = n) : c = Char.ofNat n := by rw [← h, Char.ofNat_toNat]
    simp only [escape, hquote, hslash, hlow, if_true, if_false]
    split
    · exact ⟨['b'], rfl, fun _ ↦ by rw [hc ‹_›]; rfl⟩
    · exact ⟨['t'], rfl, fun _ ↦ by rw [hc ‹_›]; rfl⟩
    · exact ⟨['n'], rfl, fun _ ↦ by rw [hc ‹_›]; rfl⟩
    · exact ⟨['f'], rfl, fun _ ↦ by rw [hc ‹_›]; rfl⟩
    · exact ⟨['r'], rfl, fun _ ↦ by rw [hc ‹_›]; rfl⟩
    · exact ⟨_, rfl, fun r ↦ numbered_hexDigit hlow r⟩
  · have hhigh : 0x20 ≤ c.toNat := Nat.not_lt.mp hlow
    exact .inl ⟨escape_eq_self hquote hslash hhigh, hquote, hslash, hhigh⟩

/-! ## Whole texts -/

theorem textBody_quote (r : List Char) : textBody ('"' :: r) = .ok ([], r) := by
  rw [textBody, if_pos rfl]

/-- An escaped character is read as what it stands for, and reading goes on behind it. -/
theorem textBody_escape (c : Char) {cs xs r : List Char} (h : textBody cs = .ok (xs, r)) :
    textBody (escape c ++ cs) = .ok (c :: xs, r) := by
  rcases escape_cases c with ⟨hc, hquote, hslash, hhigh⟩ | ⟨e, hc, he⟩
  · rw [hc, List.singleton_append, textBody, if_neg hquote, if_neg hslash,
      if_neg (Nat.not_lt.mpr hhigh), h]
  · rw [hc, List.cons_append, textBody, if_neg (by decide), if_pos rfl]
    split
    · rename_i fault hfault
      rw [he] at hfault
      cases hfault
    · rename_i x s hx
      rw [he] at hx
      cases hx
      simp only [h]

theorem textBody_flatMap_escape (cs r : List Char) :
    textBody (cs.flatMap escape ++ '"' :: r) = .ok (cs, r) := by
  induction cs with
  | nil => exact textBody_quote r
  | cons c cs ih =>
    rw [List.flatMap_cons, List.append_assoc]
    exact textBody_escape c ih

theorem writeText_append (cs r : List Char) :
    writeText cs ++ r = '"' :: (cs.flatMap escape ++ '"' :: r) := by
  simp [writeText]

/-- What stands for itself in front of gaps is read after none. -/
theorem dropGaps_cons {c : Char} (h : isGap c = false) (cs : List Char) :
    dropGaps (c :: cs) = c :: cs :=
  List.dropWhile_cons_of_neg (by simp [h])

/-- A written text is read as what it was, whatever follows. -/
theorem text_writeText (s : String) (r : List Char) :
    Reader.text (writeText s.toList ++ r) = .ok (s, r) := by
  rw [writeText_append, Reader.text, afterGaps, dropGaps_cons rfl]
  simp only [textBody_flatMap_escape, String.ofList_toList]

theorem memberName_writeText (s : String) (r : List Char) :
    Record.memberName (writeText s.toList ++ r) = .ok (s, r) := by
  rw [writeText_append]
  simp only [Record.memberName, textBody_flatMap_escape, String.ofList_toList]

theorem afterGaps_memberName_writeText (s : String) (r : List Char) :
    afterGaps Record.memberName (writeText s.toList ++ r) = .ok (s, r) := by
  rw [afterGaps, writeText_append, dropGaps_cons rfl, ← writeText_append]
  exact memberName_writeText s r

theorem Record.colon_cons (cs : List Char) : Record.colon (':' :: cs) = .ok ((), cs) := rfl

/-! ## Objects -/

namespace Reader

theorem entry_writeText (name value : String) (r : List Char) :
    entry (writeText name.toList ++ ':' :: (writeText value.toList ++ r)) =
      .ok ((name, value), r) := by
  simp only [entry, bind, StateT.bind, Except.bind, afterGaps_memberName_writeText,
    Record.colon_cons, text_writeText]
  rfl

/-- An object with one member. -/
theorem entries_singleton (name value : String) (r : List Char) :
    entries ('\x7b' :: (writeText name.toList ++ ':' :: (writeText value.toList ++ '\x7d' :: r))) =
      .ok ([(name, value)], r) := by
  have hentry := entry_writeText name value ('\x7d' :: r)
  rw [writeText_append] at hentry ⊢
  generalize name.toList.flatMap escape ++ _ = cs at hentry ⊢
  change (List.cons <$> entry <*> moreEntries (cs.length + 1)) ('"' :: cs) = _
  have hmore : moreEntries (cs.length + 1) ('\x7d' :: r) = .ok ([], r) := rfl
  simp only [Seq.seq, Functor.map, StateT.map, StateT.bind, bind, Except.bind, hentry, pure,
    Except.pure, hmore]

end Reader

end TokenMint.Json
