import Mathlib.Data.List.Basic
import TokenMint.Bytes.Form
import TokenMint.Proofs.Bytes.Utf8
import TokenMint.Proofs.Text.Pieces

/-! # Forms are read as they are written

There are many ways to write a text into a form: any byte may stand as a percent sign with two
hexadecimal digits, capital or small; those that mean nothing in a form may stand for themselves,
and a blank may be a plus.  All of them are read as the text. -/

namespace TokenMint.Bytes.Form

/-- The signs that mean something in a form: percent sign, plus, ampersand and equals sign. -/
def signs : List UInt8 := [0x25, 0x2B, 0x26, 0x3D]

theorem ne_of_not_mem_signs {b s : UInt8} (h : b ∉ signs) (hs : s ∈ signs) : s ≠ b :=
  fun heq ↦ h (heq ▸ hs)

/-! ## Digits -/

/-- A hexadecimal digit is none of the signs. -/
theorem hexValue?_not_sign {x b : UInt8} (h : hexValue? x = some b) : x ∉ signs := by
  have hnone : ∀ s ∈ signs, hexValue? s = none := by decide +kernel
  intro hmem
  rw [hnone x hmem] at h
  cases h

theorem hexByte?_not_sign {x y b : UInt8} (h : hexByte? x y = some b) :
    x ∉ signs ∧ y ∉ signs := by
  obtain ⟨u, hx, h⟩ := Option.bind_eq_some_iff.mp h
  obtain ⟨v, hy, -⟩ := Option.bind_eq_some_iff.mp h
  exact ⟨hexValue?_not_sign hx, hexValue?_not_sign hy⟩

/-- The capital digit for a value. -/
def hexDigit (v : UInt8) : UInt8 := if v < 10 then v + 0x30 else v + 0x37

theorem hexByte?_hexDigit (b : UInt8) :
    hexByte? (hexDigit (b / 16)) (hexDigit (b % 16)) = some b := by
  have hdigit : ∀ n < 16, hexValue? (hexDigit (.ofNat n)) = some (.ofNat n) := by decide
  have hvalue {v : UInt8} (hv : v.toNat < 16) : hexValue? (hexDigit v) = some v := by
    simpa using hdigit v.toNat hv
  have hhigh : (b / 16).toNat < 16 := by
    rw [UInt8.toNat_div]
    have := b.toNat_lt
    exact Nat.div_lt_of_lt_mul this
  have hlow : (b % 16).toNat < 16 := by
    rw [UInt8.toNat_mod]
    exact Nat.mod_lt _ (by decide)
  have hsum : b / 16 * 16 + b % 16 = b := by
    rw [← UInt8.toNat_inj]
    have := b.toNat_lt
    simp only [UInt8.toNat_add, UInt8.toNat_mul, UInt8.toNat_div, UInt8.toNat_mod,
      UInt8.toNat_ofNat, Nat.reducePow, Nat.reduceMod]
    omega
  simp [hexByte?, hvalue hhigh, hvalue hlow, hsum]

/-! ## Ways to write bytes -/

/-- `Writes w bs` says that `w` is a way to write the bytes `bs` into a form. -/
inductive Writes : List UInt8 → List UInt8 → Prop
  | nil : Writes [] []
  /-- What is none of the signs may stand for itself. -/
  | plain {b : UInt8} {w bs : List UInt8} (hb : b ∉ signs) (h : Writes w bs) :
    Writes (b :: w) (b :: bs)
  /-- A plus is a blank. -/
  | blank {w bs : List UInt8} (h : Writes w bs) : Writes (0x2B :: w) (0x20 :: bs)
  /-- A percent sign with two digits is any byte. -/
  | coded {x y b : UInt8} {w bs : List UInt8} (hb : hexByte? x y = some b) (h : Writes w bs) :
    Writes (0x25 :: x :: y :: w) (b :: bs)

/-- Whether a client writes a byte as it is: a letter, a digit, an asterisk, a hyphen, a full stop
or a low line. -/
def isBare (b : UInt8) : Bool :=
  0x30 ≤ b && b ≤ 0x39 || 0x41 ≤ b && b ≤ 0x5A || 0x61 ≤ b && b ≤ 0x7A ||
    [0x2A, 0x2D, 0x2E, 0x5F].contains b

/-- Bytes as clients write them. -/
def write : List UInt8 → List UInt8
  | [] => []
  | b :: bs =>
    if b = 0x20 then 0x2B :: write bs
    else if isBare b then b :: write bs
    else 0x25 :: hexDigit (b / 16) :: hexDigit (b % 16) :: write bs

/-- What stands for a blank before anything else is read. -/
def unplus (b : UInt8) : UInt8 := if b = 0x2B then 0x20 else b

theorem part_eq (bs : List UInt8) : part bs = Utf8.lossy (percentDecode (bs.map unplus)) := rfl

theorem unplus_of_not_sign {b : UInt8} (h : b ∉ signs) : unplus b = b :=
  if_neg (ne_of_not_mem_signs h (by decide)).symm

theorem percentFrom_of_ne {b : UInt8} (h : b ≠ 0x25) (done r : List UInt8) :
    percentFrom done (b :: r) = percentFrom (b :: done) r := by
  rw [percentFrom.eq_def]
  exact if_neg h

theorem percentFrom_coded {x y b : UInt8} (h : hexByte? x y = some b) (done r : List UInt8) :
    percentFrom done (0x25 :: x :: y :: r) = percentFrom (b :: done) r := by
  simp only [percentFrom, ↓reduceIte, h]

namespace Writes

variable {w bs : List UInt8}

/-- What clients write is a way to write it. -/
theorem of_write (bs : List UInt8) : Writes (write bs) bs := by
  have hsigns : ∀ s ∈ signs, isBare s = false := by decide +kernel
  induction bs with
  | nil => exact .nil
  | cons b bs ih =>
    rw [write]
    split
    · rename_i hblank
      exact hblank ▸ .blank ih
    · split
      · rename_i hbare
        exact .plain (fun hsign ↦ by simp [hsigns b hsign] at hbare) ih
      · exact .coded (hexByte?_hexDigit b) ih

/-- The signs that part names and fields are not written. -/
theorem not_mem (h : Writes w bs) {s : UInt8} (hs : s = 0x26 ∨ s = 0x3D) : s ∉ w := by
  have hsign : s ∈ signs := by rcases hs with rfl | rfl <;> decide
  have hcoding : s ≠ 0x2B ∧ s ≠ 0x25 := by rcases hs with rfl | rfl <;> decide
  induction h with
  | nil => exact List.not_mem_nil
  | plain hb _ ih => exact List.not_mem_cons_of_ne_of_not_mem (ne_of_not_mem_signs hb hsign) ih
  | blank _ ih => exact List.not_mem_cons_of_ne_of_not_mem hcoding.1 ih
  | coded hb _ ih =>
    obtain ⟨hx, hy⟩ := hexByte?_not_sign hb
    simp only [List.mem_cons, not_or]
    exact ⟨hcoding.2, ne_of_not_mem_signs hx hsign, ne_of_not_mem_signs hy hsign, ih⟩

/-- Whatever way is taken, the bytes are read after those of `done`. -/
theorem percentFrom_eq (h : Writes w bs) (done : List UInt8) :
    percentFrom done (w.map unplus) = done.reverse ++ bs := by
  induction h generalizing done with
  | nil => simp [percentFrom]
  | @plain b w bs hb _ ih =>
    have hne : b ≠ 0x25 := (ne_of_not_mem_signs hb (by decide)).symm
    rw [List.map_cons, unplus_of_not_sign hb, percentFrom_of_ne hne, ih, List.reverse_cons,
      List.append_assoc, List.singleton_append]
  | @blank w bs _ ih =>
    have hplus : unplus 0x2B = 0x20 := rfl
    rw [List.map_cons, hplus, percentFrom_of_ne (by decide), ih, List.reverse_cons,
      List.append_assoc, List.singleton_append]
  | @coded x y b w bs hb _ ih =>
    obtain ⟨hx, hy⟩ := hexByte?_not_sign hb
    have hpercent : unplus 0x25 = 0x25 := rfl
    rw [List.map_cons, List.map_cons, List.map_cons, hpercent, unplus_of_not_sign hx,
      unplus_of_not_sign hy, percentFrom_coded hb, ih, List.reverse_cons, List.append_assoc,
      List.singleton_append]

/-- Whatever way is taken, the text is read. -/
theorem part_eq {s : String} (h : Writes w (Utf8.encode s)) : part w = s := by
  rw [Form.part_eq, percentDecode, h.percentFrom_eq]
  exact Utf8.lossy_encode s

end Writes

/-! ## Fields -/

/-- Among the fields between the ampersands of `body` there is one in which a name and a text have
been written. -/
def Holds (body : List UInt8) (name text : String) : Prop :=
  ∃ n w, n ++ 0x3D :: w ∈ Pieces.split 0x26 body ∧ Writes n (Utf8.encode name) ∧
    Writes w (Utf8.encode text)

/-- A field that has been written is there to be read. -/
theorem Holds.mem_fields {body : List UInt8} {name text : String} (h : Holds body name text) :
    ∃ w, (name, w) ∈ fields body ∧ part w = text := by
  obtain ⟨n, w, hmem, hn, hw⟩ := h
  refine ⟨w, List.mem_map.mpr ⟨n ++ 0x3D :: w, ?_, ?_⟩, hw.part_eq⟩
  · rw [List.mem_filter]
    exact ⟨hmem, by simp⟩
  · simp only [Pieces.cut_append (hn.not_mem (.inr rfl)), hn.part_eq, Option.getD_some]

/-- Fields as clients write them. -/
def writeFields (fs : List (String × String)) : List UInt8 :=
  [0x26].intercalate
    (fs.map fun f ↦ write (Utf8.encode f.1) ++ 0x3D :: write (Utf8.encode f.2))

/-- What clients write holds all its fields. -/
theorem holds_writeFields {fs : List (String × String)} {f : String × String} (hf : f ∈ fs) :
    Holds (writeFields fs) f.1 f.2 := by
  refine ⟨_, _, ?_, .of_write _, .of_write _⟩
  rw [writeFields, Pieces.split_intercalate]
  · exact List.mem_map_of_mem hf
  · intro piece hpiece
    obtain ⟨f, -, rfl⟩ := List.mem_map.mp hpiece
    have hname := (Writes.of_write (Utf8.encode f.1)).not_mem (.inl rfl)
    have htext := (Writes.of_write (Utf8.encode f.2)).not_mem (.inl rfl)
    simpa [hname] using htext
  · simpa using List.ne_nil_of_mem hf

end TokenMint.Bytes.Form
