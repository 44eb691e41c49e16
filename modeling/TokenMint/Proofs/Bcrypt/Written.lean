import TokenMint.Bcrypt.Hash
import TokenMint.Proofs.Bytes.Base64
import TokenMint.Proofs.Text.Pieces

/-! # Written hashes

A written hash can be taken apart again into the work factor, the salt and the hash of which it has
been put together.  So a secret is verified against the hash of another one by comparing the two
hashes, made with one work factor under one salt.  None of this depends on how a hash is made of a
key, which is left open here. -/

namespace TokenMint.Bcrypt

open Bytes (Base64)

/-- What makes the bytes of a hash out of a key, a work factor and a salt. -/
abbrev Core := Array UInt32 → Nat → List UInt8 → List UInt8

/-- A work factor as it is written. -/
def costDigits (cost : UInt32) : String := (if cost < 10 then "0" else "") ++ toString cost.toNat

/-- Work factor, salt and hash in one text. -/
def written (cost : UInt32) (salt digest : List UInt8) : String :=
  "$2b$" ++ costDigits cost ++ "$" ++ .ofList (coding.encode salt ++ coding.encode digest)

/-- The hash of a secret, made by any core. -/
def hashWith (core : Core) (secret : String) (cost : UInt32) (salt : List UInt8) :
    Except String String :=
  if (cost.toNat : Int) ∈ costRange then .ok (written cost salt (core (key secret) cost.toNat salt))
  else .error ("Cost needs to be between 4 and 31, got " ++ toString cost.toNat)

/-- Whether a secret has a written hash, made by any core. -/
def verifyWith (core : Core) (secret hash : String) : Bool :=
  match parse? hash with
  | none => false
  | some p => core (key secret) p.cost p.salt = p.digest

theorem hashWith_digest : hashWith digest = hash := rfl

theorem verifyWith_digest : verifyWith digest = verify := rfl

theorem length_digest (key : Array UInt32) (cost : Nat) (salt : List UInt8) :
    (digest key cost salt).length = 23 := by
  simp [digest, plaintext, wordBytes]

/-! ## Taking apart -/

theorem faithful_coding : coding.Faithful := by decide +kernel

theorem dollar_not_mem_encode (bs : List UInt8) : '$' ∉ coding.encode bs := fun h ↦
  absurd (Base64.mem_alphabet_of_mem_encode faithful_coding rfl h) (by decide +kernel)

theorem costDigits_spec {cost : UInt32} (h : (cost.toNat : Int) ∈ costRange) :
    Text.Decimal.read .word32 (costDigits cost) = .ok (cost.toNat : Int) ∧
      '$' ∉ (costDigits cost).toList ∧ costDigits cost ≠ "" := by
  have hall : ∀ n < 32, 4 ≤ n →
      Text.Decimal.read .word32 (costDigits (.ofNat n)) = .ok (n : Int) ∧
        '$' ∉ (costDigits (.ofNat n)).toList ∧ costDigits (.ofNat n) ≠ "" := by decide +kernel
  obtain ⟨hlow, hhigh⟩ := h
  have hlow : 4 ≤ cost.toNat := Int.ofNat_le.mp hlow
  have hhigh : cost.toNat ≤ 31 := Int.ofNat_le.mp hhigh
  have hcost := hall cost.toNat (by omega) hlow
  rwa [UInt32.ofNat_toNat] at hcost

/-- Dollar signs stand between the parts and in none of them. -/
theorem split_written {cost : UInt32} (h : (cost.toNat : Int) ∈ costRange)
    (salt digest : List UInt8) :
    Text.split '$' (written cost salt digest) =
      ["", "2b", costDigits cost, .ofList (coding.encode salt ++ coding.encode digest)] := by
  obtain ⟨-, hdigits, -⟩ := costDigits_spec h
  have htext : (written cost salt digest).toList = ['$'].intercalate [[], "2b".toList,
      (costDigits cost).toList, coding.encode salt ++ coding.encode digest] := by
    simp [written]
  rw [Text.split, htext, Pieces.split_intercalate ?_ (by simp)]
  · simp
  · simpa [dollar_not_mem_encode]

/-- What has been put together is taken apart again. -/
theorem parse?_written {cost : UInt32} {salt digest : List UInt8}
    (h : (cost.toNat : Int) ∈ costRange) (hsalt : salt.length = 16) (hdigest : digest.length = 23) :
    parse? (written cost salt digest) = some ⟨cost.toNat, salt, digest⟩ := by
  obtain ⟨hread, -, hne⟩ := costDigits_spec h
  have hsaltText : (coding.encode salt).length = 22 := by
    rw [Base64.length_encode rfl, hsalt]
  have hdigestText : (coding.encode digest).length = 31 := by
    rw [Base64.length_encode rfl, hdigest]
  have hbody : String.ofList (coding.encode salt ++ coding.encode digest) ≠ "" := by
    intro hempty
    have hlength := congrArg (·.toList.length) hempty
    simp [hsaltText] at hlength
  have hpieces : (Text.split '$' (written cost salt digest)).filter (· ≠ "") =
      ["2b", costDigits cost, .ofList (coding.encode salt ++ coding.encode digest)] := by
    rw [split_written h, List.filter_cons_of_neg (by simp), List.filter_eq_self.mpr]
    intro piece hpiece
    simp only [List.mem_cons, List.not_mem_nil, or_false] at hpiece
    rcases hpiece with rfl | rfl | rfl
    · decide
    · exact decide_eq_true hne
    · exact decide_eq_true hbody
  have hsaltRead : coding.decode ((coding.encode salt ++ coding.encode digest).take 22) =
      some salt := by
    rw [← hsaltText, List.take_left, Base64.decode_encode faithful_coding rfl]
  have hdigestRead : coding.decode ((coding.encode salt ++ coding.encode digest).drop 22) =
      some digest := by
    rw [← hsaltText, List.drop_left, Base64.decode_encode faithful_coding rfl]
  rw [parse?, hpieces]
  simp only [hread, h, versions, Except.toOption, String.toList_ofList, List.length_append,
    hsaltText, hdigestText, hsaltRead, hdigestRead, guard, Option.bind_eq_bind, Option.bind_some]
  rfl

variable {core : Core} {p s w : String} {cost : UInt32} {salt : List UInt8}

theorem hashWith_eq_ok :
    hashWith core p cost salt = .ok w ↔
      (cost.toNat : Int) ∈ costRange ∧ written cost salt (core (key p) cost.toNat salt) = w := by
  rw [hashWith]
  split <;> simp_all

/-- A secret is verified against the hash of another one if both have the same hash. -/
theorem verifyWith_iff (hcore : ∀ key cost salt, (core key cost salt).length = 23)
    (hsalt : salt.length = 16) (h : hashWith core p cost salt = .ok w) :
    verifyWith core s w = true ↔
      core (key s) cost.toNat salt = core (key p) cost.toNat salt := by
  obtain ⟨hcost, rfl⟩ := hashWith_eq_ok.mp h
  rw [verifyWith, parse?_written hcost hsalt (hcore _ _ _), decide_eq_true_iff]

end TokenMint.Bcrypt
