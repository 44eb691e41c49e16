import Mathlib.Data.List.TakeWhile
import TokenMint.Text.Decimal

/-! # What decimal integers mean

A numeral is read from left to right against a range.  Here it is said without the reader what is a
numeral, and of which number: `read_signed` and `read_unsigned`.  Any other text is refused, and
`read_eq_error` says with which fault: digits at the front that already go beyond the range count
before whatever comes after them. -/

namespace TokenMint.Text.Decimal

/-! ## Numerals -/

/-- A row of digits, and the number that it stands for. -/
structure Digits (ds : List Char) (n : Nat) : Prop where
  ne_nil : ds ≠ []
  isDigit : ∀ c ∈ ds, c.isDigit
  value : Nat.ofDigitChars 10 ds 0 = n

/-- A natural number in digits, with an optional plus sign. -/
inductive Unsigned : List Char → Nat → Prop
  | bare {ds : List Char} {n : Nat} (h : Digits ds n) : Unsigned ds n
  | plus {ds : List Char} {n : Nat} (h : Digits ds n) : Unsigned ('+' :: ds) n

/-- An integer in digits, with an optional sign. -/
inductive Signed : List Char → Int → Prop
  | unsigned {cs : List Char} {n : Nat} (h : Unsigned cs n) : Signed cs n
  | minus {ds : List Char} {n : Nat} (h : Digits ds n) : Signed ('-' :: ds) (-n)

/-- The digits that a text begins with stand for more than a limit. -/
def Exceeds (limit : Nat) (cs : List Char) : Prop :=
  limit < Nat.ofDigitChars 10 (cs.takeWhile Char.isDigit) 0

namespace Range

/-- A text begins with a number beyond the end of a range. -/
def Above (r : Range) (cs : List Char) : Prop :=
  ∃ ds, (cs = ds ∨ cs = '+' :: ds) ∧ Exceeds r.high.toNat ds

/-- A text begins with a number before the start of a range that holds negative ones. -/
def Below (r : Range) (cs : List Char) : Prop :=
  r.low < 0 ∧ ∃ ds, cs = '-' :: ds ∧ Exceeds r.low.natAbs ds

/-- A numeral, with a minus sign only if the range holds negative numbers. -/
def Writes (r : Range) (cs : List Char) (n : Int) : Prop :=
  Signed cs n ∧ (0 ≤ r.low → cs.head? ≠ some '-')

/-- Why a text is not read as a number of a range. -/
inductive Refuses (r : Range) : List Char → Fault → Prop
  | empty : Refuses r [] .empty
  | tooLarge {cs : List Char} (h : r.Above cs) : Refuses r cs .tooLarge
  | tooSmall {cs : List Char} (h : r.Below cs) : Refuses r cs .tooSmall
  | invalidDigit {cs : List Char} (hne : cs ≠ []) (habove : ¬ r.Above cs) (hbelow : ¬ r.Below cs)
    (hno : ∀ n ∈ r, ¬ r.Writes cs n) : Refuses r cs .invalidDigit

end Range

/-! ## Magnitudes -/

theorem le_ofDigitChars (n : Nat) (ds : List Char) : n ≤ Nat.ofDigitChars 10 ds n := by
  induction ds generalizing n with
  | nil => exact Nat.le_refl n
  | cons c ds ih =>
    rw [Nat.ofDigitChars_cons]
    exact Nat.le_trans (by omega) (ih _)

/-- Digits at the front that pass the limit come first, then whatever is no digit. -/
theorem magnitude_eq {limit n : Nat} (hn : n ≤ limit) (excess : Fault) (cs : List Char) :
    magnitude limit excess n cs =
      if limit < Nat.ofDigitChars 10 (cs.takeWhile Char.isDigit) n then .error excess
      else if cs.all Char.isDigit then .ok (Nat.ofDigitChars 10 cs n)
      else .error .invalidDigit := by
  induction cs generalizing n with
  | nil => simp [magnitude, Nat.ofDigitChars_nil, Nat.not_lt.mpr hn]
  | cons c cs ih =>
    cases hc : c.isDigit with
    | false => simp [magnitude, digit?_eq_none.mpr hc, hc, Nat.ofDigitChars_nil, Nat.not_lt.mpr hn]
    | true =>
      have hd : digit? c = some (c.toNat - '0'.toNat) := by rw [digit?, if_pos hc]
      simp only [magnitude, hd, List.takeWhile_cons_of_pos hc, Nat.ofDigitChars_cons,
        List.all_cons, hc, Bool.true_and]
      split
      · rename_i hle
        exact ih hle
      · rename_i hlt
        rw [if_pos (Nat.lt_of_lt_of_le (Nat.not_le.mp hlt) (le_ofDigitChars _ _))]

theorem takeWhile_of_digits {ds : List Char} (h : ∀ c ∈ ds, c.isDigit) :
    ds.takeWhile Char.isDigit = ds :=
  List.takeWhile_eq_self_iff.mpr h

theorem magnitude_eq_ok {limit : Nat} {excess : Fault} {cs : List Char} {n : Nat} :
    magnitude limit excess 0 cs = .ok n ↔
      (∀ c ∈ cs, c.isDigit) ∧ Nat.ofDigitChars 10 cs 0 = n ∧ n ≤ limit := by
  rw [magnitude_eq (Nat.zero_le _)]
  constructor
  · intro h
    split at h
    · cases h
    · rename_i hle
      split at h
      · rename_i hall
        cases h
        rw [List.all_eq_true] at hall
        rw [takeWhile_of_digits hall, Nat.not_lt] at hle
        exact ⟨hall, rfl, hle⟩
      · cases h
  · rintro ⟨hall, rfl, hle⟩
    rw [takeWhile_of_digits hall, if_neg (Nat.not_lt.mpr hle), if_pos (List.all_eq_true.mpr hall)]

theorem magnitude_eq_error {limit : Nat} {excess f : Fault} {cs : List Char}
    (h : magnitude limit excess 0 cs = .error f) :
    Exceeds limit cs ∧ f = excess ∨ f = .invalidDigit := by
  rw [magnitude_eq (Nat.zero_le _)] at h
  split at h
  · rename_i hex
    cases h
    exact .inl ⟨hex, rfl⟩
  · split at h <;> cases h
    exact .inr rfl

theorem magnitude_of_exceeds {limit : Nat} {excess : Fault} {cs : List Char}
    (h : Exceeds limit cs) : magnitude limit excess 0 cs = .error excess := by
  rw [magnitude_eq (Nat.zero_le _)]
  exact if_pos h

/-- What exceeds a limit begins with a digit. -/
theorem Exceeds.exists_cons {limit : Nat} {cs : List Char} (h : Exceeds limit cs) :
    ∃ c ds, cs = c :: ds ∧ c.isDigit := by
  cases cs with
  | nil => exact absurd h (Nat.not_lt_zero _)
  | cons c ds =>
    refine ⟨c, ds, rfl, ?_⟩
    cases hc : c.isDigit with
    | true => rfl
    | false => simp [Exceeds, hc, Nat.ofDigitChars_nil] at h

/-! ## Reading -/

variable {r : Range} {cs ds : List Char} {n : Int} {f : Fault}

theorem readChars_plus (r : Range) (hne : ds ≠ []) :
    readChars r ('+' :: ds) = Int.ofNat <$> magnitude r.high.toNat .tooLarge 0 ds := by
  cases ds with
  | nil => exact absurd rfl hne
  | cons c ds => rfl

theorem readChars_minus (r : Range) (hne : ds ≠ []) :
    readChars r ('-' :: ds) =
      if r.low < 0 then (fun n : Nat ↦ -(n : Int)) <$> magnitude r.low.natAbs .tooSmall 0 ds
      else .error .invalidDigit := by
  cases ds with
  | nil => exact absurd rfl hne
  | cons c ds => rfl

theorem readChars_bare (r : Range) {c : Char} (hplus : c ≠ '+') (hminus : c ≠ '-') :
    readChars r (c :: ds) = Int.ofNat <$> magnitude r.high.toNat .tooLarge 0 (c :: ds) := by
  unfold readChars
  split <;> simp_all

theorem map_eq_ok {α β : Type} {g : α → β} {x : Except Fault α} {b : β} :
    g <$> x = .ok b ↔ ∃ a, x = .ok a ∧ g a = b := by
  cases x <;> simp [Functor.map, Except.map]

theorem map_eq_error {α β : Type} {g : α → β} {x : Except Fault α} :
    g <$> x = .error f ↔ x = .error f := by
  cases x <;> simp [Functor.map, Except.map]

theorem Digits.magnitude {limit m : Nat} (h : Digits ds m) (hm : m ≤ limit) (excess : Fault) :
    magnitude limit excess 0 ds = .ok m :=
  magnitude_eq_ok.mpr ⟨h.isDigit, h.value, hm⟩

/-- A row of digits has no sign before it. -/
theorem Digits.exists_cons {m : Nat} (h : Digits ds m) :
    ∃ c ds', ds = c :: ds' ∧ c ≠ '+' ∧ c ≠ '-' := by
  obtain ⟨c, ds', rfl⟩ := List.exists_cons_of_ne_nil h.ne_nil
  have hc : c.isDigit := h.isDigit c List.mem_cons_self
  refine ⟨c, ds', rfl, ?_, ?_⟩ <;> (rintro rfl; cases hc)

/-- What is read is a numeral within the range. -/
theorem writes_of_readChars (hlow : r.low ≤ 0) (hhigh : 0 ≤ r.high)
    (h : readChars r cs = .ok n) : r.Writes cs n ∧ n ∈ r := by
  unfold readChars at h
  split at h
  · cases h
  · cases h
  · cases h
  · rename_i ds hne
    obtain ⟨m, hm, rfl⟩ := map_eq_ok.mp h
    obtain ⟨hall, hvalue, hle⟩ := magnitude_eq_ok.mp hm
    refine ⟨⟨.unsigned (.plus ⟨hne, hall, hvalue⟩), by simp⟩, ?_⟩
    exact Range.mem_iff.mpr ⟨by simp; omega, by simp; omega⟩
  · rename_i ds hne
    split at h
    · rename_i hneg
      obtain ⟨m, hm, rfl⟩ := map_eq_ok.mp h
      obtain ⟨hall, hvalue, hle⟩ := magnitude_eq_ok.mp hm
      refine ⟨⟨.minus ⟨hne, hall, hvalue⟩, fun hnonneg ↦ absurd hnonneg (Int.not_le.mpr hneg)⟩, ?_⟩
      exact Range.mem_iff.mpr ⟨by omega, by omega⟩
    · cases h
  · rename_i hne hplus hminus hplus' hminus'
    obtain ⟨m, hm, rfl⟩ := map_eq_ok.mp h
    obtain ⟨hall, hvalue, hle⟩ := magnitude_eq_ok.mp hm
    refine ⟨⟨.unsigned (.bare ⟨hne, hall, hvalue⟩), fun _ hhead ↦ ?_⟩, ?_⟩
    · obtain ⟨ds, rfl⟩ := List.head?_eq_some_iff.mp hhead
      exact hminus' ds rfl
    · exact Range.mem_iff.mpr ⟨by simp; omega, by simp; omega⟩

/-- A numeral within the range is read. -/
theorem readChars_of_writes (h : r.Writes cs n) (hn : n ∈ r) : readChars r cs = .ok n := by
  obtain ⟨hlow, hhigh⟩ := Range.mem_iff.mp hn
  obtain ⟨hsigned, hminus⟩ := h
  cases hsigned with
  | @unsigned _ m hm =>
    have hle : m ≤ r.high.toNat := by omega
    cases hm with
    | bare h =>
      obtain ⟨c, ds, rfl, hc, hc'⟩ := h.exists_cons
      rw [readChars_bare r hc hc', h.magnitude hle]
      rfl
    | plus h =>
      rw [readChars_plus r h.ne_nil, h.magnitude hle]
      rfl
  | @minus ds m h =>
    have hneg : r.low < 0 := Int.not_le.mp fun hnonneg ↦ hminus hnonneg rfl
    rw [readChars_minus r h.ne_nil, if_pos hneg, h.magnitude (by omega)]
    rfl

theorem readChars_of_above (h : r.Above cs) : readChars r cs = .error .tooLarge := by
  obtain ⟨ds, hcs, hex⟩ := h
  obtain ⟨c, ds', rfl, hc⟩ := hex.exists_cons
  rcases hcs with rfl | rfl
  · rw [readChars_bare r (by rintro rfl; cases hc) (by rintro rfl; cases hc),
      magnitude_of_exceeds hex]
    rfl
  · rw [readChars_plus r (by simp), magnitude_of_exceeds hex]
    rfl

theorem readChars_of_below (h : r.Below cs) : readChars r cs = .error .tooSmall := by
  obtain ⟨hneg, ds, rfl, hex⟩ := h
  obtain ⟨c, ds', rfl, hc⟩ := hex.exists_cons
  rw [readChars_minus r (by simp), if_pos hneg, magnitude_of_exceeds hex]
  rfl

/-- Each fault but the last has one reason. -/
theorem readChars_eq_error (h : readChars r cs = .error f) :
    f = .empty ∧ cs = [] ∨ f = .tooLarge ∧ r.Above cs ∨ f = .tooSmall ∧ r.Below cs ∨
      f = .invalidDigit ∧ cs ≠ [] := by
  unfold readChars at h
  split at h
  · cases h
    exact .inl ⟨rfl, rfl⟩
  · cases h
    simp
  · cases h
    simp
  · rcases magnitude_eq_error (map_eq_error.mp h) with ⟨hex, rfl⟩ | rfl
    · exact .inr (.inl ⟨rfl, _, .inr rfl, hex⟩)
    · simp
  · split at h
    · rename_i hneg
      rcases magnitude_eq_error (map_eq_error.mp h) with ⟨hex, rfl⟩ | rfl
      · exact .inr (.inr (.inl ⟨rfl, hneg, _, rfl, hex⟩))
      · simp
    · cases h
      simp
  · rename_i hne _ _ _ _
    rcases magnitude_eq_error (map_eq_error.mp h) with ⟨hex, rfl⟩ | rfl
    · exact .inr (.inl ⟨rfl, _, .inl rfl, hex⟩)
    · exact .inr (.inr (.inr ⟨rfl, hne⟩))

/-! ## Texts -/

variable {s : String}

/-- Exactly the numerals within the range are read. -/
theorem read_eq_ok (hlow : r.low ≤ 0) (hhigh : 0 ≤ r.high) :
    read r s = .ok n ↔ r.Writes s.toList n ∧ n ∈ r :=
  ⟨writes_of_readChars hlow hhigh, fun h ↦ readChars_of_writes h.1 h.2⟩

/-- All other texts are refused for the first thing that is wrong with them. -/
theorem read_eq_error (hlow : r.low ≤ 0) (hhigh : 0 ≤ r.high) :
    read r s = .error f ↔ r.Refuses s.toList f := by
  constructor
  · intro h
    rcases readChars_eq_error h with ⟨rfl, hnil⟩ | ⟨rfl, habove⟩ | ⟨rfl, hbelow⟩ | ⟨rfl, hne⟩
    · rw [hnil]
      exact .empty
    · exact .tooLarge habove
    · exact .tooSmall hbelow
    · refine .invalidDigit hne (fun habove ↦ ?_) (fun hbelow ↦ ?_) fun n hn hwrites ↦ ?_
      · cases (readChars_of_above habove).symm.trans h
      · cases (readChars_of_below hbelow).symm.trans h
      · cases (readChars_of_writes hwrites hn).symm.trans h
  · intro h
    unfold read
    generalize s.toList = cs at h ⊢
    cases h with
    | empty => rfl
    | tooLarge habove => exact readChars_of_above habove
    | tooSmall hbelow => exact readChars_of_below hbelow
    | invalidDigit hne habove hbelow hno =>
      cases hread : readChars r cs with
      | ok n =>
        obtain ⟨hwrites, hn⟩ := writes_of_readChars hlow hhigh hread
        exact absurd hwrites (hno n hn)
      | error g =>
        rcases readChars_eq_error hread with ⟨-, hnil⟩ | ⟨-, h⟩ | ⟨-, h⟩ | ⟨rfl, -⟩
        · exact absurd hnil hne
        · exact absurd h habove
        · exact absurd h hbelow
        · rfl

/-! ## The ranges in use -/

theorem writes_iff_signed (hneg : r.low < 0) : r.Writes cs n ↔ Signed cs n :=
  and_iff_left fun hnonneg ↦ absurd hnonneg (Int.not_le.mpr hneg)

/-- Where there are no negative numbers, a numeral has no minus sign. -/
theorem writes_iff_unsigned (hnonneg : 0 ≤ r.low) :
    r.Writes cs n ↔ ∃ m : Nat, Unsigned cs m ∧ n = m := by
  constructor
  · rintro ⟨hsigned, hminus⟩
    cases hsigned with
    | unsigned h => exact ⟨_, h, rfl⟩
    | minus h => exact absurd rfl (hminus hnonneg)
  · rintro ⟨m, h, rfl⟩
    refine ⟨.unsigned h, fun _ hhead ↦ ?_⟩
    cases h with
    | bare h =>
      obtain ⟨c, ds, rfl, -, hc⟩ := h.exists_cons
      exact hc (Option.some_inj.mp hhead)
    | plus h => cases hhead

/-- An integer is read with any sign, as far as the range goes. -/
theorem read_signed (hlow : r.low < 0) (hhigh : 0 ≤ r.high) :
    read r s = .ok n ↔ Signed s.toList n ∧ n ∈ r := by
  rw [read_eq_ok (Int.le_of_lt hlow) hhigh, writes_iff_signed hlow]

/-- A natural number is read with no sign but a plus. -/
theorem read_unsigned (hlow : r.low = 0) (hhigh : 0 ≤ r.high) :
    read r s = .ok n ↔ ∃ m : Nat, Unsigned s.toList m ∧ n = m ∧ m ≤ r.high := by
  rw [read_eq_ok (Int.le_of_eq hlow) hhigh, writes_iff_unsigned (Int.le_of_eq hlow.symm)]
  constructor
  · rintro ⟨⟨m, hm, rfl⟩, hn⟩
    exact ⟨m, hm, rfl, hn.2⟩
  · rintro ⟨m, hm, rfl, hle⟩
    exact ⟨⟨m, hm, rfl⟩, Range.mem_iff.mpr ⟨by omega, hle⟩⟩

theorem readWord16_eq_ok {w : UInt16} : readWord16 s = .ok w ↔ Unsigned s.toList w.toNat := by
  rw [readWord16, map_eq_ok]
  constructor
  · rintro ⟨n, hread, rfl⟩
    obtain ⟨m, hm, rfl, hle⟩ := (read_unsigned rfl (by decide)).mp hread
    have hlt : m < UInt16.size := Nat.lt_succ_of_le (Int.ofNat_le.mp hle)
    rwa [Int.toNat_natCast, UInt16.toNat_ofNat_of_lt' hlt]
  · intro h
    have hle : (w.toNat : Int) ≤ Range.word16.high :=
      Int.ofNat_le.mpr (Nat.le_of_lt_succ w.toNat_lt)
    exact ⟨w.toNat, (read_unsigned rfl (by decide)).mpr ⟨_, h, rfl, hle⟩, UInt16.ofNat_toNat⟩

theorem readWord16_eq_error : readWord16 s = .error f ↔ Range.word16.Refuses s.toList f := by
  rw [readWord16, map_eq_error, read_eq_error (by decide) (by decide)]

theorem readWord32_eq_ok {w : UInt32} : readWord32 s = .ok w ↔ Unsigned s.toList w.toNat := by
  rw [readWord32, map_eq_ok]
  constructor
  · rintro ⟨n, hread, rfl⟩
    obtain ⟨m, hm, rfl, hle⟩ := (read_unsigned rfl (by decide)).mp hread
    have hlt : m < UInt32.size := Nat.lt_succ_of_le (Int.ofNat_le.mp hle)
    rwa [Int.toNat_natCast, UInt32.toNat_ofNat_of_lt' hlt]
  · intro h
    have hle : (w.toNat : Int) ≤ Range.word32.high :=
      Int.ofNat_le.mpr (Nat.le_of_lt_succ w.toNat_lt)
    exact ⟨w.toNat, (read_unsigned rfl (by decide)).mpr ⟨_, h, rfl, hle⟩, UInt32.ofNat_toNat⟩

theorem readWord32_eq_error : readWord32 s = .error f ↔ Range.word32.Refuses s.toList f := by
  rw [readWord32, map_eq_error, read_eq_error (by decide) (by decide)]

/-! ## One meaning -/

/-- A numeral stands for one integer: a wide enough range reads any two from it. -/
theorem Signed.unique {m : Int} (hn : Signed cs n) (hm : Signed cs m) : n = m := by
  let r : Range := ⟨-(n.natAbs + m.natAbs + 1), n.natAbs + m.natAbs + 1⟩
  have hneg : r.low < 0 := by simp only [r]; omega
  have hreadn : readChars r cs = .ok n :=
    readChars_of_writes ((writes_iff_signed hneg).mpr hn)
      (Range.mem_iff.mpr ⟨by simp only [r]; omega, by simp only [r]; omega⟩)
  have hreadm : readChars r cs = .ok m :=
    readChars_of_writes ((writes_iff_signed hneg).mpr hm)
      (Range.mem_iff.mpr ⟨by simp only [r]; omega, by simp only [r]; omega⟩)
  exact Except.ok.inj (hreadn.symm.trans hreadm)

end TokenMint.Text.Decimal
