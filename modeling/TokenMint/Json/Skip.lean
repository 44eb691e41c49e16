import TokenMint.Json.Reader

/-! # Reading past a JSON value

A value that nobody asked for is only checked for its form: numbers are not evaluated, surrogates
need no partner, and lists and objects may nest to any depth. -/

namespace TokenMint.Json.Skip

/-- What an unfinished list or object is. -/
inductive Frame where
  | list
  | object
deriving DecidableEq, Repr

def Frame.closing : Frame → Char
  | .list => ']'
  | .object => '\x7d'

/-- Past an escape, after the backslash. -/
def escape (cs : List Char) : Except Fault (List Char) :=
  match cs with
  | [] => .error .cutShort
  | c :: r =>
    if c = 'u' then
      match hexUnit r with
      | .error e => .error e
      | .ok (_, r) => .ok r
    else if (shortEscape? c).isSome then .ok r
    else .error .malformed

theorem escape_length {cs r : List Char} (h : escape cs = .ok r) : r.length < cs.length := by
  unfold escape at h
  split at h
  · simp at h
  · split at h
    · split at h
      · simp at h
      · rename_i u t hu
        have := hexUnit_length hu
        obtain rfl : t = r := by simpa using h
        simp only [List.length_cons]
        omega
    · split at h
      · simp only [Except.ok.injEq] at h
        simp [← h]
      · simp at h

/-- Past a text, after its opening quote. -/
def text (cs : List Char) : Except Fault (List Char) :=
  match cs with
  | [] => .error .cutShort
  | c :: cs =>
    if c = '"' then .ok cs
    else if c = '\\' then
      match h : escape cs with
      | .error e => .error e
      | .ok r =>
        have := escape_length h
        text r
    else if c.toNat < 0x20 then .error .malformed
    else text cs
termination_by cs.length

/-- Past the digits of an exponent, after the letter `e`. -/
def exponent (cs : List Char) : Except Fault (List Char) :=
  let cs :=
    match cs with
    | '+' :: r | '-' :: r => r
    | _ => cs
  match cs.span Char.isDigit with
  | ([], _) => .error .malformed
  | (_, rest) => .ok rest

/-- Past a number, after its sign. -/
def number (cs : List Char) : Except Fault (List Char) :=
  match cs.span Char.isDigit with
  | ([], _) => .error .malformed
  | ('0' :: _ :: _, _) => .error .malformed
  | (_, '.' :: r) =>
    match r.span Char.isDigit with
    | ([], _) => .error .malformed
    | (_, 'e' :: r) | (_, 'E' :: r) => exponent r
    | (_, rest) => .ok rest
  | (_, 'e' :: r) | (_, 'E' :: r) => exponent r
  | (_, rest) => .ok rest

/-- Where reading stands. -/
inductive Place where
  /-- Before a value. -/
  | value
  /-- Just inside the innermost frame. -/
  | opened
  /-- After a value. -/
  | closed
deriving DecidableEq, Repr

/-- Past the name of a member and its colon. -/
def name (cs : List Char) : Except Fault (List Char) := do
  match dropGaps cs with
  | [] => .error .cutShort
  | '"' :: r =>
    match dropGaps (← text r) with
    | [] => .error .cutShort
    | ':' :: r => .ok r
    | _ => .error .malformed
  | _ => .error .malformed

/-- Past the name that a value in this frame has, if it has one. -/
def valueStart : Frame → List Char → Except Fault (List Char)
  | .list, cs => .ok cs
  | .object, cs => name cs

/-- Past the rest of a value with these frames open; two steps for each character are enough. -/
def steps : Nat → Place → List Frame → List Char → Except Fault (List Char)
  | 0, _, _, _ => .error .cutShort
  | n + 1, .value, fs, cs => do
    match dropGaps cs with
    | [] => .error .cutShort
    | 'n' :: r => steps n .closed fs (← word ['u', 'l', 'l'] r)
    | 't' :: r => steps n .closed fs (← word ['r', 'u', 'e'] r)
    | 'f' :: r => steps n .closed fs (← word ['a', 'l', 's', 'e'] r)
    | '-' :: r => steps n .closed fs (← number r)
    | '"' :: r => steps n .closed fs (← text r)
    | '[' :: r => steps n .opened (.list :: fs) r
    | '\x7b' :: r => steps n .opened (.object :: fs) r
    | c :: r => if c.isDigit then steps n .closed fs (← number (c :: r)) else .error .malformed
  | _ + 1, .opened, [], _ => .error .malformed
  | n + 1, .opened, f :: fs, cs => do
    match dropGaps cs with
    | [] => .error .cutShort
    | c :: r =>
      if c = f.closing then steps n .closed fs r
      else steps n .value (f :: fs) (← valueStart f (c :: r))
  | _ + 1, .closed, [], cs => .ok cs
  | n + 1, .closed, f :: fs, cs => do
    match dropGaps cs with
    | [] => .error .cutShort
    | c :: r =>
      if c = ',' then steps n .value (f :: fs) (← valueStart f r)
      else if c = f.closing then steps n .closed fs r
      else .error .malformed

end TokenMint.Json.Skip

namespace TokenMint.Json.Reader

/-- Reads past any value. -/
def ignored : Reader Unit := fun cs ↦
  (Skip.steps (2 * cs.length + 2) .value [] cs).map (((), ·))

end TokenMint.Json.Reader
