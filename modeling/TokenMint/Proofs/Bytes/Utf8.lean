import TokenMint.Bytes.Utf8

/-! # Text is read back from its bytes

The bytes of a text are those of its characters one after the other.  The first byte of a character
says how many follow, and its bounds for the next one keep nothing out that a character has written;
so the strict reader and the lenient one both read the text. -/

namespace TokenMint.Bytes.Utf8

/-! ## Bytes within a character -/

/-- The byte after the first that holds six bits. -/
def tail (n : Nat) : UInt8 := .ofNat (n % 64 + 128)

theorem isTail_tail (n : Nat) : isTail (tail n) = true := by
  have hall : ∀ m < 64, isTail (.ofNat (m + 128)) = true := by decide
  exact hall (n % 64) (Nat.mod_lt n (by decide))

theorem tailBits_tail (n : Nat) : tailBits (tail n) = n % 64 := by
  have hall : ∀ m < 64, tailBits (.ofNat (m + 128)) = m := by decide
  exact hall (n % 64) (Nat.mod_lt n (by decide))

/-- A byte after the first lies within bounds that its bits lie within. -/
theorem tail_within {n : Nat} (low high : Nat) (hlow : low ≤ n % 64) (hhigh : n % 64 ≤ high)
    (h : high < 64) : UInt8.ofNat (low + 128) ≤ tail n ∧ tail n ≤ UInt8.ofNat (high + 128) := by
  simp only [tail, UInt8.le_iff_toNat_le, UInt8.toNat_ofNat']
  omega

/-! ## First bytes -/

theorem follow?_one {n : Nat} (h : n < 128) : follow? (.ofNat n) = some (0, 0, 0) := by
  have hall : ∀ m < 128, follow? (.ofNat m) = some (0, 0, 0) := by decide
  exact hall n h

/-- The bounds keep out what one byte could have held. -/
theorem follow?_two {n : Nat} (hlow : 2 ≤ n) (h : n < 32) :
    follow? (.ofNat (n + 192)) = some (1, 0x80, 0xBF) := by
  have hall : ∀ m < 32, 2 ≤ m → follow? (.ofNat (m + 192)) = some (1, 0x80, 0xBF) := by decide
  exact hall n h hlow

/-- They keep out what two bytes could have held, and surrogates. -/
theorem follow?_three {n : Nat} (h : n < 16) :
    follow? (.ofNat (n + 224)) =
      some (2, .ofNat ((if n = 0 then 32 else 0) + 128),
        .ofNat ((if n = 13 then 31 else 63) + 128)) := by
  have hall : ∀ m < 16, follow? (.ofNat (m + 224)) =
      some (2, .ofNat ((if m = 0 then 32 else 0) + 128),
        .ofNat ((if m = 13 then 31 else 63) + 128)) := by decide
  exact hall n h

/-- They keep out what three bytes could have held, and what lies beyond the last plane. -/
theorem follow?_four {n : Nat} (h : n < 5) :
    follow? (.ofNat (n + 240)) =
      some (3, .ofNat ((if n = 0 then 16 else 0) + 128),
        .ofNat ((if n = 4 then 15 else 63) + 128)) := by
  have hall : ∀ m < 5, follow? (.ofNat (m + 240)) =
      some (3, .ofNat ((if m = 0 then 16 else 0) + 128),
        .ofNat ((if m = 4 then 15 else 63) + 128)) := by decide
  exact hall n h

/-! ## One character -/

theorem step_one {n : Nat} (h : n < 128) (r : List UInt8) :
    step (.ofNat n) r = (some (.ofNat n), r) := by
  have hbyte : (UInt8.ofNat n).toNat = n := by
    rw [UInt8.toNat_ofNat']
    omega
  simp only [step, follow?_one h, hbyte]

theorem step_two {n : Nat} (hlow : 128 ≤ n) (h : n < 2048) (r : List UInt8) :
    step (.ofNat (n / 64 % 32 + 192)) (tail n :: r) = (some (.ofNat n), r) := by
  have hbyte : (UInt8.ofNat (n / 64 % 32 + 192)).toNat = n / 64 % 32 + 192 := by
    rw [UInt8.toNat_ofNat']
    omega
  have hwithin : 0x80 ≤ tail n ∧ tail n ≤ 0xBF :=
    tail_within 0 63 (by omega) (by omega) (by decide)
  have hvalue : (n / 64 % 32 + 192) % 0x20 * 0x40 + n % 64 = n := by omega
  simp only [step, follow?_two (n := n / 64 % 32) (by omega) (by omega), hbyte, tailBits_tail]
  rw [if_neg (Decidable.not_not.mpr hwithin), hvalue]

theorem step_three {n : Nat} (hlow : 2048 ≤ n) (h : n < 65536)
    (hscalar : n < 0xD800 ∨ 0xE000 ≤ n) (r : List UInt8) :
    step (.ofNat (n / 4096 % 16 + 224)) (tail (n / 64) :: tail n :: r) = (some (.ofNat n), r) := by
  have hbyte : (UInt8.ofNat (n / 4096 % 16 + 224)).toNat = n / 4096 % 16 + 224 := by
    rw [UInt8.toNat_ofNat']
    omega
  have hwithin := tail_within (n := n / 64) (if n / 4096 % 16 = 0 then 32 else 0)
    (if n / 4096 % 16 = 13 then 31 else 63) (by split <;> omega) (by split <;> omega)
    (by split <;> decide)
  have hvalue : ((n / 4096 % 16 + 224) % 0x10 * 0x40 + n / 64 % 64) * 0x40 + n % 64 = n := by omega
  simp only [step, follow?_three (n := n / 4096 % 16) (by omega), hbyte, tailBits_tail]
  rw [if_neg (Decidable.not_not.mpr hwithin),
    if_neg (Decidable.not_not.mpr (isTail_tail n)), hvalue]

theorem step_four {n : Nat} (hlow : 65536 ≤ n) (h : n < 0x110000) (r : List UInt8) :
    step (.ofNat (n / 262144 % 8 + 240)) (tail (n / 4096) :: tail (n / 64) :: tail n :: r) =
      (some (.ofNat n), r) := by
  have hbyte : (UInt8.ofNat (n / 262144 % 8 + 240)).toNat = n / 262144 % 8 + 240 := by
    rw [UInt8.toNat_ofNat']
    omega
  have hwithin := tail_within (n := n / 4096) (if n / 262144 % 8 = 0 then 16 else 0)
    (if n / 262144 % 8 = 4 then 15 else 63) (by split <;> omega) (by split <;> omega)
    (by split <;> decide)
  have hvalue : (((n / 262144 % 8 + 240) % 0x08 * 0x40 + n / 4096 % 64) * 0x40 + n / 64 % 64) * 0x40
      + n % 64 = n := by omega
  simp only [step, follow?_four (n := n / 262144 % 8) (by omega), hbyte, tailBits_tail]
  rw [if_neg (Decidable.not_not.mpr hwithin), if_neg (Decidable.not_not.mpr (isTail_tail _)),
    if_neg (Decidable.not_not.mpr (isTail_tail _)), hvalue]

/-- The bytes of a character are read as that character, whatever follows. -/
theorem step_encodeChar (c : Char) (r : List UInt8) :
    ∃ b t, String.utf8EncodeChar c ++ r = b :: t ∧ step b t = (some c, r) := by
  have hc : Char.ofNat c.toNat = c := Char.ofNat_toNat c
  have hvalid : c.toNat < 0xD800 ∨ 0xE000 ≤ c.toNat ∧ c.toNat < 0x110000 := by
    rcases c.valid with h | h
    · exact .inl h
    · exact .inr ⟨h.1, h.2⟩
  have hnat : c.val.toNat = c.toNat := rfl
  unfold String.utf8EncodeChar
  simp only [hnat]
  split
  · exact ⟨_, _, rfl, (step_one (by omega) r).trans (by rw [hc])⟩
  · split
    · exact ⟨_, _, rfl, (step_two (n := c.toNat) (by omega) (by omega) r).trans (by rw [hc])⟩
    · split
      · exact ⟨_, _, rfl,
          (step_three (n := c.toNat) (by omega) (by omega) (by omega) r).trans (by rw [hc])⟩
      · exact ⟨_, _, rfl,
          (step_four (n := c.toNat) (by omega) (by omega) r).trans (by rw [hc])⟩

/-! ## Texts -/

theorem encode_eq (s : String) : encode s = s.toList.flatMap String.utf8EncodeChar := by
  rw [encode, String.toUTF8, ← String.utf8Encode_toList, List.utf8Encode,
    List.toList_data_toByteArray]

/-- The bytes of characters are read after those of `done`. -/
theorem strictFrom_encode (cs done : List Char) (read : Nat) :
    strictFrom read done (cs.flatMap String.utf8EncodeChar) = .ok (done.reverse ++ cs) := by
  induction cs generalizing done read with
  | nil => simp [strictFrom]
  | cons c cs ih =>
    obtain ⟨b, t, hbytes, hstep⟩ := step_encodeChar c (cs.flatMap String.utf8EncodeChar)
    rw [List.flatMap_cons, hbytes, strictFrom]
    simp only [hstep]
    rw [ih, List.reverse_cons, List.append_assoc, List.singleton_append]

theorem lossyFrom_encode (cs done : List Char) :
    lossyFrom done (cs.flatMap String.utf8EncodeChar) = done.reverse ++ cs := by
  induction cs generalizing done with
  | nil => simp [lossyFrom]
  | cons c cs ih =>
    obtain ⟨b, t, hbytes, hstep⟩ := step_encodeChar c (cs.flatMap String.utf8EncodeChar)
    rw [List.flatMap_cons, hbytes, lossyFrom]
    simp only [hstep]
    rw [Option.getD_some, ih, List.reverse_cons, List.append_assoc, List.singleton_append]

theorem decode?_encode (s : String) : decode? (encode s) = some s := by
  rw [decode?, decode, encode_eq, strictFrom_encode]
  exact congrArg some String.ofList_toList

theorem encode_ne_nil {s : String} (h : s ≠ "") : encode s ≠ [] := by
  intro hnil
  have hread := decode?_encode s
  have hempty : decode? [] = some "" := decode?_encode ""
  rw [hnil, hempty] at hread
  exact h (Option.some_inj.mp hread).symm

theorem lossy_encode (s : String) : lossy (encode s) = s := by
  rw [lossy, encode_eq, lossyFrom_encode]
  exact String.ofList_toList

end TokenMint.Bytes.Utf8
