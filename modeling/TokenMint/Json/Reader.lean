import TokenMint.Double
import TokenMint.Text.Decimal

/-! # Reading JSON: scalars

A reader takes a value off the front of a text and gives it with the rest. What a text can have
wrong is of three kinds: its form, a value of another kind than the one asked for, or an end that
comes too early. A value of another kind is still read to its end when it is a scalar, so that a
fault of its form comes first. -/

namespace TokenMint.Json

/-- The kinds of fault. -/
inductive Fault where
  /-- The text is not JSON. -/
  | malformed
  /-- The text is JSON, but not the value asked for. -/
  | mismatch
  /-- The text ends too early. -/
  | cutShort
deriving DecidableEq, Repr

/-- Takes a value off the front of a text. -/
abbrev Reader := StateT (List Char) (Except Fault)

/-- The four characters that may stand between the parts of a value. -/
def isGap (c : Char) : Bool := c = ' ' || c = '\n' || c = '\t' || c = '\x0d'

def dropGaps (cs : List Char) : List Char := cs.dropWhile isGap

/-- Reads on after any gaps. -/
def afterGaps {α : Type} (r : Reader α) : Reader α := fun cs ↦ r (dropGaps cs)

/-! ## Texts -/

/-- The value of a hexadecimal digit. -/
def hexValue? (c : Char) : Option Nat :=
  let n := c.toNat
  if c.isDigit then some (n - 48)
  else if 97 ≤ n ∧ n ≤ 102 then some (n - 87)
  else if 65 ≤ n ∧ n ≤ 70 then some (n - 55)
  else none

/-- Four hexadecimal digits. They are looked at only when four bytes are left. -/
def hexUnit (cs : List Char) : Except Fault (Nat × List Char) :=
  match cs with
  | a :: b :: c :: d :: r =>
    match hexValue? a, hexValue? b, hexValue? c, hexValue? d with
    | some a, some b, some c, some d => .ok (((a * 16 + b) * 16 + c) * 16 + d, r)
    | _, _, _, _ => .error .malformed
  | _ => if 4 ≤ cs.foldl (fun n c ↦ n + c.utf8Size) 0 then .error .malformed else .error .cutShort

def isLeading (u : Nat) : Bool := 0xD800 ≤ u && u ≤ 0xDBFF

def isTrailing (u : Nat) : Bool := 0xDC00 ≤ u && u ≤ 0xDFFF

/-- The character that two surrogates stand for. -/
def joinSurrogates (lead trail : Nat) : Char :=
  .ofNat ((lead - 0xD800) * 0x400 + (trail - 0xDC00) + 0x10000)

/-- A character by number, after the letter `u`; one outside the first plane takes two numbers. -/
def numbered (cs : List Char) : Except Fault (Char × List Char) :=
  match hexUnit cs with
  | .error e => .error e
  | .ok (u, r) =>
    if isTrailing u then .error .malformed
    else if isLeading u then
      match r with
      | [] | ['\\'] => .error .cutShort
      | '\\' :: 'u' :: r =>
        match hexUnit r with
        | .error e => .error e
        | .ok (v, r) => if isTrailing v then .ok (joinSurrogates u v, r) else .error .malformed
      | _ => .error .malformed
    else .ok (.ofNat u, r)

/-- The character that a letter after a backslash stands for. -/
def shortEscape? : Char → Option Char
  | '"' => some '"'
  | '\\' => some '\\'
  | '/' => some '/'
  | 'b' => some '\x08'
  | 'f' => some '\x0c'
  | 'n' => some '\n'
  | 'r' => some '\x0d'
  | 't' => some '\t'
  | _ => none

/-- An escaped character, after the backslash. -/
def escaped (cs : List Char) : Except Fault (Char × List Char) :=
  match cs with
  | [] => .error .cutShort
  | c :: r =>
    if c = 'u' then numbered r
    else
      match shortEscape? c with
      | some x => .ok (x, r)
      | none => .error .malformed

theorem hexUnit_length {cs r : List Char} {u : Nat} (h : hexUnit cs = .ok (u, r)) :
    r.length < cs.length := by
  unfold hexUnit at h
  split at h
  · split at h
    · simp only [Except.ok.injEq, Prod.mk.injEq] at h
      simp only [← h.2, List.length_cons]
      omega
    · simp at h
  · split at h <;> simp at h

theorem numbered_length {cs r : List Char} {x : Char} (h : numbered cs = .ok (x, r)) :
    r.length < cs.length := by
  unfold numbered at h
  split at h
  · simp at h
  · rename_i u s hu
    have hs := hexUnit_length hu
    split at h
    · simp at h
    · split at h
      · split at h
        · simp at h
        · simp at h
        · split at h
          · simp at h
          · rename_i t v w hv
            have ht := hexUnit_length hv
            split at h
            · obtain ⟨-, rfl⟩ : _ ∧ w = r := by simpa using h
              simp only [List.length_cons] at hs
              omega
            · simp at h
        · simp at h
      · obtain ⟨-, rfl⟩ : _ ∧ s = r := by simpa using h
        omega

theorem escaped_length {cs r : List Char} {x : Char} (h : escaped cs = .ok (x, r)) :
    r.length < cs.length := by
  unfold escaped at h
  split at h
  · simp at h
  · split at h
    · have := numbered_length h
      simp only [List.length_cons]
      omega
    · split at h
      · simp only [Except.ok.injEq, Prod.mk.injEq] at h
        simp [← h.2]
      · simp at h

/-- A text after its opening quote. -/
def textBody (cs : List Char) : Except Fault (List Char × List Char) :=
  match cs with
  | [] => .error .cutShort
  | c :: cs =>
    if c = '"' then .ok ([], cs)
    else if c = '\\' then
      match h : escaped cs with
      | .error e => .error e
      | .ok (x, r) =>
        have := escaped_length h
        match textBody r with
        | .error e => .error e
        | .ok (xs, r) => .ok (x :: xs, r)
    else if c.toNat < 0x20 then .error .malformed
    else
      match textBody cs with
      | .error e => .error e
      | .ok (xs, r) => .ok (c :: xs, r)
termination_by cs.length

/-! ## Numbers -/

/-- A number as far as its kind goes: an integer of 64 bits, or anything else. -/
inductive Number where
  | int (n : Int)
  | real
deriving DecidableEq, Repr

/-- What a run of decimal digits stands for. -/
def digitsValue (ds : List Char) : Nat := ds.foldl (fun n d ↦ 10 * n + (d.toNat - 48)) 0

/-- A real number as it is kept while its digits come: a significand of at most sixty-four bits,
and the power of ten that it is multiplied by. -/
structure Scaled where
  significand : Nat := 0
  exponent : Int := 0
deriving DecidableEq, Repr

namespace Scaled

/-- The significand with one more digit, if it still fits. -/
def push? (s : Scaled) (d : Char) : Option Nat :=
  let n := 10 * s.significand + (d.toNat - 48)
  if n < Nat.pow 2 64 then some n else none

/-- With digits before the point. From the first one that does not fit on, they only count. -/
def whole (s : Scaled) : List Char → Scaled
  | [] => s
  | d :: ds =>
    match s.push? d with
    | some n => whole { s with significand := n } ds
    | none => { s with exponent := s.exponent + (ds.length + 1) }

/-- With digits after the point, up to the first one that does not fit. -/
def fraction (s : Scaled) : List Char → Scaled
  | [] => s
  | d :: ds =>
    match s.push? d with
    | some n => fraction { significand := n, exponent := s.exponent - 1 } ds
    | none => s

/-- Whether a number is too large for a real: its significand and its power of ten are rounded
each by itself, and then multiplied. -/
def overflows (s : Scaled) : Bool :=
  let factor (n : Nat) : Rat := Double.nearest (Rat.ofInt n)
  s.significand ≠ 0 && (308 < s.exponent || (0 ≤ s.exponent
    && Double.limit ≤ factor s.significand * factor (Nat.pow 10 s.exponent.toNat)))

end Scaled

/-- A number that is not an integer of 64 bits. -/
def realNumber (s : Scaled) (rest : List Char) : Except Fault (Number × List Char) :=
  if s.overflows then .error .malformed else .ok (.real, rest)

/-- The integer with these digits, if it fits in 64 bits. A minus zero is a real. -/
def wholeNumber (negative : Bool) (ds rest : List Char) : Except Fault (Number × List Char) :=
  let m := digitsValue ds
  if negative then
    if 0 < m ∧ m ≤ Nat.pow 2 63 then .ok (.int (-m), rest) else realNumber (Scaled.whole {} ds) rest
  else if m < Nat.pow 2 64 then .ok (.int m, rest)
  else realNumber (Scaled.whole {} ds) rest

/-- The power of ten after the letter `e`. -/
def exponentPart (s : Scaled) (cs : List Char) : Except Fault (Number × List Char) :=
  let (negative, cs) :=
    match cs with
    | '+' :: r => (false, r)
    | '-' :: r => (true, r)
    | _ => (false, cs)
  let (es, rest) := cs.span Char.isDigit
  if es = [] then .error (if cs = [] then .cutShort else .malformed)
  else
    let e : Int := digitsValue es
    realNumber { s with exponent := s.exponent + if negative then -e else e } rest

/-- What follows the digits before the point. -/
def afterWhole (negative : Bool) (ds cs : List Char) : Except Fault (Number × List Char) :=
  match cs with
  | '.' :: r =>
    let (fs, rest) := r.span Char.isDigit
    let s := (Scaled.whole {} ds).fraction fs
    if fs = [] then .error (if r = [] then .cutShort else .malformed)
    else
      match rest with
      | 'e' :: r | 'E' :: r => exponentPart s r
      | _ => realNumber s rest
  | 'e' :: r | 'E' :: r => exponentPart (Scaled.whole {} ds) r
  | _ => wholeNumber negative ds cs

/-- A number after its sign. A zero in front stands alone. -/
def unsignedNumber (negative : Bool) (cs : List Char) : Except Fault (Number × List Char) :=
  match cs.span Char.isDigit with
  | ([], _) => .error (if cs = [] then .cutShort else .malformed)
  | ('0' :: _ :: _, _) => .error .malformed
  | (ds, rest) => afterWhole negative ds rest

/-! ## Scalars -/

/-- The rest of a word whose first letter has been read. -/
def word : List Char → List Char → Except Fault (List Char)
  | [], cs => .ok cs
  | _ :: _, [] => .error .cutShort
  | w :: ws, c :: cs => if c = w then word ws cs else .error .malformed

/-- A value of another kind than the one asked for: the fault of a scalar's form, or else the
mismatch. -/
def otherwise {α : Type} : Reader α
  | 'n' :: r => do discard (word ['u', 'l', 'l'] r); .error .mismatch
  | 't' :: r => do discard (word ['r', 'u', 'e'] r); .error .mismatch
  | 'f' :: r => do discard (word ['a', 'l', 's', 'e'] r); .error .mismatch
  | '-' :: r => do discard (unsignedNumber true r); .error .mismatch
  | '"' :: r => do discard (textBody r); .error .mismatch
  | '[' :: _ | '\x7b' :: _ => .error .mismatch
  | [] => .error .malformed
  | c :: r => do
    if c.isDigit then
      discard (unsignedNumber false (c :: r))
      .error .mismatch
    else .error .malformed

namespace Reader

/-- A text. -/
def text : Reader String := afterGaps fun
  | [] => .error .cutShort
  | '"' :: r =>
    match textBody r with
    | .error e => .error e
    | .ok (s, r) => .ok (.ofList s, r)
  | cs => otherwise cs

/-- The integer that a number is, if it lies in a range. -/
def inRange (range : Text.Decimal.Range) :
    Except Fault (Number × List Char) → Except Fault (Int × List Char)
  | .error e => .error e
  | .ok (.real, _) => .error .mismatch
  | .ok (.int n, r) => if n ∈ range then .ok (n, r) else .error .mismatch

/-- An integer in a range. -/
def int (range : Text.Decimal.Range) : Reader Int := afterGaps fun
  | [] => .error .cutShort
  | '-' :: r => inRange range (unsignedNumber true r)
  | c :: r =>
    if c.isDigit then inRange range (unsignedNumber false (c :: r)) else otherwise (c :: r)

/-- One of the two truth values. -/
def bool : Reader Bool := afterGaps fun
  | [] => .error .cutShort
  | 't' :: r => (word ['r', 'u', 'e'] r).map ((true, ·))
  | 'f' :: r => (word ['a', 'l', 's', 'e'] r).map ((false, ·))
  | cs => otherwise cs

/-- The value without content. -/
def null : Reader Unit := afterGaps fun
  | [] => .error .cutShort
  | 'n' :: r => (word ['u', 'l', 'l'] r).map (((), ·))
  | cs => otherwise cs

/-- The whole of a text holds one value, with nothing but gaps around it. -/
def whole {α : Type} (r : Reader α) (s : String) : Except Fault α :=
  match r s.toList with
  | .error e => .error e
  | .ok (a, rest) => if dropGaps rest = [] then .ok a else .error .malformed

end Reader

end TokenMint.Json
