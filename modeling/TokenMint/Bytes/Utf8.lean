/-! # Text as bytes

Bytes are read as UTF-8 strictly, or with a replacement character for each longest stretch that
begins a character but does not finish it. -/

namespace TokenMint.Bytes.Utf8

def encode (s : String) : List UInt8 := s.toUTF8.data.toList

/-- Whether a byte continues a character. -/
def isTail (b : UInt8) : Bool := 0x80 ≤ b && b ≤ 0xBF

/-- How many bytes follow a first byte, and the bounds of the first of these. The bounds keep out
long forms, surrogates and what lies beyond the last plane. -/
def follow? (b : UInt8) : Option (Nat × UInt8 × UInt8) :=
  if b < 0x80 then some (0, 0, 0)
  else if b < 0xC2 then none
  else if b < 0xE0 then some (1, 0x80, 0xBF)
  else if b = 0xE0 then some (2, 0xA0, 0xBF)
  else if b = 0xED then some (2, 0x80, 0x9F)
  else if b < 0xF0 then some (2, 0x80, 0xBF)
  else if b = 0xF0 then some (3, 0x90, 0xBF)
  else if b < 0xF4 then some (3, 0x80, 0xBF)
  else if b = 0xF4 then some (3, 0x80, 0x8F)
  else none

/-- The bits that a byte after the first holds. -/
def tailBits (b : UInt8) : Nat := b.toNat % 0x40

/-- The character at the front, or that there is none, and what comes after it. -/
def step (b : UInt8) (r : List UInt8) : Option Char × List UInt8 :=
  match follow? b with
  | none => (none, r)
  | some (n, low, high) =>
    match n, r with
    | 0, r => (some (.ofNat b.toNat), r)
    | _ + 1, [] => (none, [])
    | n + 1, c :: r =>
      if ¬ (low ≤ c ∧ c ≤ high) then (none, c :: r)
      else
        match n, r with
        | 0, r => (some (.ofNat (b.toNat % 0x20 * 0x40 + tailBits c)), r)
        | _ + 1, [] => (none, [])
        | n + 1, d :: r =>
          if ¬ isTail d then (none, d :: r)
          else
            match n, r with
            | 0, r =>
              (some (.ofNat ((b.toNat % 0x10 * 0x40 + tailBits c) * 0x40 + tailBits d)), r)
            | _ + 1, [] => (none, [])
            | _ + 1, e :: r =>
              if ¬ isTail e then (none, e :: r)
              else
                (some (.ofNat (((b.toNat % 0x08 * 0x40 + tailBits c) * 0x40 + tailBits d) * 0x40
                  + tailBits e)), r)

theorem step_length (b : UInt8) (r : List UInt8) : (step b r).2.length ≤ r.length := by
  unfold step
  repeat' split
  all_goals simp only [List.length_cons, List.length_nil]
  all_goals omega

/-- Text with replacement characters, put after the characters of `done`, last first. -/
def lossyFrom (done : List Char) (bs : List UInt8) : List Char :=
  match bs with
  | [] => done.reverse
  | b :: r =>
    have := step_length b r
    lossyFrom ((step b r).1.getD '\ufffd' :: done) (step b r).2
termination_by bs.length

/-- The text that bytes stand for, with replacement characters for what is none. -/
def lossy (bs : List UInt8) : String := .ofList (lossyFrom [] bs)

/-- Where bytes stop being text. -/
structure Fault where
  /-- How many bytes before it are text. -/
  start : Nat
  /-- How many bytes there are none, unless they only end too early. -/
  length : Option Nat
deriving DecidableEq, Repr

/-- The wording of a fault. -/
def Fault.message (f : Fault) : String :=
  match f.length with
  | some n =>
    "invalid utf-8 sequence of " ++ toString n ++ " bytes from index " ++ toString f.start
  | none => "incomplete utf-8 byte sequence from index " ++ toString f.start

/-- The fault of a first byte and what follows it, when there is no character. -/
def faultAt (start : Nat) (b : UInt8) (r : List UInt8) : Fault :=
  let rest := (step b r).2
  { start
    length := if (follow? b).isSome ∧ rest = [] then none else some (r.length + 1 - rest.length) }

/-- Text put after the characters of `done`, last first, if all the bytes are text. So many bytes
have been read. -/
def strictFrom (read : Nat) (done : List Char) (bs : List UInt8) : Except Fault (List Char) :=
  match bs with
  | [] => .ok done.reverse
  | b :: r =>
    have := step_length b r
    match (step b r).1 with
    | none => .error (faultAt read b r)
    | some c => strictFrom (read + (r.length + 1 - (step b r).2.length)) (c :: done) (step b r).2
termination_by bs.length

/-- The text that bytes stand for, if all of them are text. -/
def decode (bs : List UInt8) : Except Fault String := (strictFrom 0 [] bs).map .ofList

def decode? (bs : List UInt8) : Option String := (decode bs).toOption

end TokenMint.Bytes.Utf8
