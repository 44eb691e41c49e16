import TokenMint.Bcrypt.Cipher
import TokenMint.Bytes.Base64
import TokenMint.Bytes.Utf8
import TokenMint.Text.Decimal
import TokenMint.Text.Pieces

/-! # Hashing and verifying secrets

A secret is hashed with a salt and a work factor, each step of which doubles the work. The written
hash holds the version of the scheme, the work factor, the salt and the hash, so that a secret can
be verified by hashing it again. Whatever is not a written hash verifies no secret. -/

namespace TokenMint.Bcrypt

open Bytes (Base64 Utf8.encode)

/-- Salt and hash are written in this alphabet, without padding. -/
def coding : Base64 where
  alphabet := "./ABCDEFGHIJKLMNOPQRSTUVWXYZabcdefghijklmnopqrstuvwxyz0123456789".toList
  padded := false

/-- Four bytes as a word, the first one highest. -/
def wordAt (bs : Array UInt8) (i : Nat) : UInt32 :=
  let byte := fun j ↦ (bs.getD ((4 * i + j) % bs.size) 0).toUInt32
  (byte 0 <<< 24) ||| (byte 1 <<< 16) ||| (byte 2 <<< 8) ||| byte 3

/-- The first `n` words of bytes repeated without end. -/
def cycle (n : Nat) (bs : List UInt8) : Array UInt32 :=
  Array.ofFn fun i : Fin n ↦ wordAt bs.toArray i

/-- What of a secret takes part in its hash: its bytes and a zero, up to the seventy-second. -/
def material (secret : String) : List UInt8 := (Utf8.encode secret ++ [0]).take 72

/-- The key that a secret gives. -/
def key (secret : String) : Array UInt32 := cycle 18 (material secret)

/-- The text that is enciphered: "OrpheanBeholderScryDoubt". -/
def plaintext : List (UInt32 × UInt32) :=
  [(0x4F727068, 0x65616E42), (0x65686F6C, 0x64657253), (0x63727944, 0x6F756274)]

def wordBytes (w : UInt32) : List UInt8 :=
  [(w >>> 24).toUInt8, (w >>> 16).toUInt8, (w >>> 8).toUInt8, w.toUInt8]

/-- The twenty-three bytes of a hash. -/
def digest (key : Array UInt32) (cost : Nat) (salt : List UInt8) : List UInt8 :=
  let c := Cipher.start.expand (cycle 4 salt) key
  let c := Cipher.expandTimes key (cycle 18 salt) (Nat.pow 2 cost) c
  ((plaintext.map (c.encipherTimes 64)).flatMap fun b ↦ wordBytes b.1 ++ wordBytes b.2).take 23

/-- The work factors of which a hash can be computed. -/
def costRange : Text.Decimal.Range := ⟨4, 31⟩

/-- The hash of a secret under a salt of sixteen bytes, or why there is none. -/
def hash (secret : String) (cost : UInt32) (salt : List UInt8) : Except String String :=
  if (cost.toNat : Int) ∈ costRange then
    let digits := (if cost < 10 then "0" else "") ++ toString cost.toNat
    .ok ("$2b$" ++ digits ++ "$"
      ++ .ofList (coding.encode salt ++ coding.encode (digest (key secret) cost.toNat salt)))
  else .error ("Cost needs to be between 4 and 31, got " ++ toString cost.toNat)

/-- A written hash taken apart. -/
structure Parts where
  cost : Nat
  salt : List UInt8
  digest : List UInt8
deriving DecidableEq, Repr

/-- The versions of the scheme, which all mean the same. -/
def versions : List String := ["2a", "2b", "2x", "2y"]

/-- The parts of a written hash: version, work factor, and the salt with the hash, between dollar
signs of which there may be more than needed. -/
def parse? (written : String) : Option Parts :=
  match (Text.split '$' written).filter (· ≠ "") with
  | [version, cost, body] => do
    guard (version ∈ versions)
    let cost ← (Text.Decimal.read .word32 cost).toOption
    guard (cost ∈ costRange)
    let cs := body.toList
    guard (cs.length = 53)
    let salt ← coding.decode (cs.take 22)
    let digest ← coding.decode (cs.drop 22)
    return { cost := cost.toNat, salt, digest }
  | _ => none

/-- Whether a secret has a written hash. -/
def verify (secret written : String) : Bool :=
  match parse? written with
  | none => false
  | some p => digest (key secret) p.cost p.salt = p.digest

end TokenMint.Bcrypt
