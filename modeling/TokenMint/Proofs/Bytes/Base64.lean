import TokenMint.Bytes.Base64

/-! # Reading back what has been written six bits to a character

A coding whose alphabet has sixty-four different characters reads back the bytes that it has
written, with padding or without, if the alphabet does not have what fills up.  Without padding,
nothing is written but characters of the alphabet, four for three bytes and as many as are needed at
the end. -/

namespace TokenMint.Bytes.Base64

variable {k : Base64}

/-- Whether each character is read as the value for which it has been written. -/
def Faithful (k : Base64) : Prop := ∀ n < 64, k.value? (k.digit n) = some n

instance (k : Base64) : Decidable k.Faithful := inferInstanceAs (Decidable (∀ n < 64, _))

theorem ofNat_eq {n : Nat} {a : UInt8} (h : n = a.toNat) : UInt8.ofNat n = a := by
  rw [h, UInt8.ofNat_toNat]

/-! ## Groups of bytes -/

theorem lastOne_bits (a : UInt8) : lastOne (a.toNat / 4) (a.toNat % 4 * 16) = some [a] := by
  have hfirst : a.toNat / 4 * 4 + a.toNat % 4 * 16 / 16 = a.toNat := by omega
  rw [lastOne, if_pos (Nat.mul_mod_left ..), ofNat_eq hfirst]

theorem lastTwo_bits (a b : UInt8) :
    lastTwo (a.toNat / 4) (a.toNat % 4 * 16 + b.toNat / 16) (b.toNat % 16 * 4) = some [a, b] := by
  have hb := b.toNat_lt
  have hfirst : a.toNat / 4 * 4 + (a.toNat % 4 * 16 + b.toNat / 16) / 16 = a.toNat := by omega
  have hsecond : (a.toNat % 4 * 16 + b.toNat / 16) % 16 * 16 + b.toNat % 16 * 4 / 4 =
      b.toNat := by omega
  rw [lastTwo, if_pos (Nat.mul_mod_left ..), ofNat_eq hfirst, ofNat_eq hsecond]

theorem three_bits (a b c : UInt8) :
    three (a.toNat / 4) (a.toNat % 4 * 16 + b.toNat / 16) (b.toNat % 16 * 4 + c.toNat / 64)
      (c.toNat % 64) = [a, b, c] := by
  have hb := b.toNat_lt
  have hc := c.toNat_lt
  have hfirst : a.toNat / 4 * 4 + (a.toNat % 4 * 16 + b.toNat / 16) / 16 = a.toNat := by omega
  have hsecond : (a.toNat % 4 * 16 + b.toNat / 16) % 16 * 16 +
      (b.toNat % 16 * 4 + c.toNat / 64) / 4 = b.toNat := by omega
  have hthird : (b.toNat % 16 * 4 + c.toNat / 64) % 4 * 64 + c.toNat % 64 = c.toNat := by omega
  rw [three, ofNat_eq hfirst, ofNat_eq hsecond, ofNat_eq hthird]

/-! ## Without padding -/

/-- What is written without padding is read back. -/
theorem decodeBare_encode (h : k.Faithful) (hk : k.padded = false) (bs : List UInt8) :
    k.decodeBare (k.encode bs) = some bs := by
  have hlt (a : UInt8) : a.toNat < 256 := a.toNat_lt
  fun_induction encode k bs with
  | case1 => rfl
  | case2 a =>
    have ha := hlt a
    have hx := h (a.toNat / 4) (by omega)
    have hy := h (a.toNat % 4 * 16) (by omega)
    simp only [padding, hk, Bool.false_eq_true, ↓reduceIte, decodeBare, hx, hy, lastOne_bits,
      Option.bind_eq_bind, Option.bind_some]
  | case3 a b =>
    have ha := hlt a
    have hb := hlt b
    have hx := h (a.toNat / 4) (by omega)
    have hy := h (a.toNat % 4 * 16 + b.toNat / 16) (by omega)
    have hz := h (b.toNat % 16 * 4) (by omega)
    simp only [padding, hk, Bool.false_eq_true, ↓reduceIte, decodeBare, hx, hy, hz, lastTwo_bits,
      Option.bind_eq_bind, Option.bind_some]
  | case4 a b c r ih =>
    have ha := hlt a
    have hb := hlt b
    have hc := hlt c
    have hx := h (a.toNat / 4) (by omega)
    have hy := h (a.toNat % 4 * 16 + b.toNat / 16) (by omega)
    have hz := h (b.toNat % 16 * 4 + c.toNat / 64) (by omega)
    have hw := h (c.toNat % 64) (by omega)
    simp only [decodeBare, hx, hy, hz, hw, ih, three_bits, Option.bind_eq_bind, Option.bind_some]
    rfl

theorem decode_encode (h : k.Faithful) (hk : k.padded = false) (bs : List UInt8) :
    k.decode (k.encode bs) = some bs := by
  rw [decode, if_neg (by simp [hk]), decodeBare_encode h hk]

theorem length_encode (hk : k.padded = false) (bs : List UInt8) :
    (k.encode bs).length = (4 * bs.length + 2) / 3 := by
  fun_induction encode k bs with
  | case1 => rfl
  | case2 a => simp [padding, hk]
  | case3 a b => simp [padding, hk]
  | case4 a b c r ih =>
    simp only [List.length_cons, ih]
    omega

theorem digit_mem (h : k.Faithful) (n : Nat) : k.digit n ∈ k.alphabet := by
  have hvalue : k.value? (k.digit n) = some (n % 64) := by
    rw [← h (n % 64) (Nat.mod_lt _ (by decide)), digit, digit, Nat.mod_mod]
  rw [← List.isSome_idxOf?]
  exact Option.isSome_of_eq_some hvalue

/-- What is not in the alphabet is not written for any value. -/
theorem digit_ne (h : k.Faithful) {c : Char} (hc : c ∉ k.alphabet) (n : Nat) : k.digit n ≠ c :=
  fun heq ↦ hc (heq ▸ digit_mem h n)

/-- Where there are bytes, a character of the alphabet comes first. -/
theorem encode_eq_cons (k : Base64) {bs : List UInt8} (hbs : bs ≠ []) :
    ∃ n r, k.encode bs = k.digit n :: r := by
  fun_cases encode k bs with
  | case1 => exact absurd rfl hbs
  | case2 => exact ⟨_, _, rfl⟩
  | case3 => exact ⟨_, _, rfl⟩
  | case4 => exact ⟨_, _, rfl⟩

/-- Nothing but characters of the alphabet is written. -/
theorem mem_alphabet_of_mem_encode (h : k.Faithful) (hk : k.padded = false) {bs : List UInt8}
    {c : Char} (hc : c ∈ k.encode bs) : c ∈ k.alphabet := by
  have hdigit := digit_mem h
  fun_induction encode k bs with
  | case1 => cases hc
  | case2 a =>
    simp only [padding, hk, Bool.false_eq_true, ↓reduceIte, List.mem_cons, List.not_mem_nil,
      or_false] at hc
    rcases hc with rfl | rfl <;> exact hdigit _
  | case3 a b =>
    simp only [padding, hk, Bool.false_eq_true, ↓reduceIte, List.mem_cons, List.not_mem_nil,
      or_false] at hc
    rcases hc with rfl | rfl | rfl <;> exact hdigit _
  | case4 a b d r ih =>
    simp only [List.mem_cons] at hc
    rcases hc with rfl | rfl | rfl | rfl | hc
    iterate 4 exact hdigit _
    exact ih hc

/-! ## With padding -/

/-- What is written with padding is read back. -/
theorem decodePadded_encode (h : k.Faithful) (hk : k.padded = true) (hpad : '=' ∉ k.alphabet)
    (bs : List UInt8) : k.decodePadded (k.encode bs) = some bs := by
  have hlt (a : UInt8) : a.toNat < 256 := a.toNat_lt
  fun_induction encode k bs with
  | case1 => rfl
  | case2 a =>
    have ha := hlt a
    have hx := h (a.toNat / 4) (by omega)
    have hy := h (a.toNat % 4 * 16) (by omega)
    have hfill : k.padding 2 = ['=', '='] := by rw [padding, if_pos hk]; rfl
    simp only [hfill, decodePadded, hx, hy, lastOne_bits, Option.bind_eq_bind, Option.bind_some]
  | case3 a b =>
    have ha := hlt a
    have hb := hlt b
    have hx := h (a.toNat / 4) (by omega)
    have hy := h (a.toNat % 4 * 16 + b.toNat / 16) (by omega)
    have hz := h (b.toNat % 16 * 4) (by omega)
    have hfill : k.padding 1 = ['='] := by rw [padding, if_pos hk]; rfl
    have hne := digit_ne h hpad (b.toNat % 16 * 4)
    rw [hfill, decodePadded]
    · simp only [hx, hy, hz, lastTwo_bits, Option.bind_eq_bind, Option.bind_some]
    · exact hne
  | case4 a b c r ih =>
    have ha := hlt a
    have hb := hlt b
    have hc := hlt c
    have hx := h (a.toNat / 4) (by omega)
    have hy := h (a.toNat % 4 * 16 + b.toNat / 16) (by omega)
    have hz := h (b.toNat % 16 * 4 + c.toNat / 64) (by omega)
    have hw := h (c.toNat % 64) (by omega)
    have hne := digit_ne h hpad (c.toNat % 64)
    rw [decodePadded]
    · simp only [hx, hy, hz, hw, ih, three_bits, Option.bind_eq_bind, Option.bind_some]
      rfl
    · exact fun _ heq ↦ absurd heq hne
    · exact fun heq ↦ absurd heq hne

theorem standard_faithful : standard.Faithful := by decide +kernel

/-- The usual coding reads back the bytes that it has written. -/
theorem decode_encode_standard (bs : List UInt8) :
    standard.decode (standard.encode bs) = some bs := by
  have hpadded : standard.padded = true := rfl
  rw [decode, if_pos hpadded, decodePadded_encode standard_faithful hpadded (by decide +kernel)]

end TokenMint.Bytes.Base64
