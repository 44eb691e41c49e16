import TokenMint.Json.Skip

/-! # Reading JSON: records and variants

A record is an object with one member for each of its fields, in any order and possibly with
others, or the list of its fields in order. A variant without content is a text that names it, or
an object with that name and the value without content; one with content is an object whose only
member has its name. An object with nothing but texts may also be read as it is, by its members. -/

namespace TokenMint.Json

/-- A field of a record of which `σ` is what has been read so far. -/
structure Field (σ : Type) where
  name : String
  /-- Whether the field has been read. -/
  known : σ → Bool
  /-- Reads the field's value and puts it in. -/
  read : Reader (σ → σ)

/-- A record read as a `σ` with gaps, and made whole in the end. -/
structure Record (σ τ : Type) where
  start : σ
  fields : List (Field σ)
  /-- The record, if no field is missing. -/
  finish : σ → Option τ

namespace Record

variable {σ τ : Type}

/-- A colon between the name of a member and its value. -/
def colon : Reader Unit := afterGaps fun
  | [] => .error .cutShort
  | ':' :: r => .ok ((), r)
  | _ => .error .malformed

/-- The value of the member called `name`. A field may not come twice; a member that is no field
is read past. -/
def member (fields : List (Field σ)) (name : String) (s : σ) : Reader σ := do
  match fields.find? (·.name = name) with
  | some f =>
    if f.known s then throw .mismatch
    colon
    return (← f.read) s
  | none =>
    colon
    Reader.ignored
    return s

/-- The name of a member, from its opening quote on. -/
def memberName : Reader String
  | '"' :: r =>
    match textBody r with
    | .error e => .error e
    | .ok (s, r) => .ok (.ofList s, r)
  | [] => .error .cutShort
  | _ => .error .malformed

/-- Further members, to the closing brace; there are no more of them than characters. -/
def moreMembers (fields : List (Field σ)) : Nat → σ → Reader σ
  | 0, _, _ => .error .cutShort
  | n + 1, s, cs =>
    match dropGaps cs with
    | [] => .error .cutShort
    | '\x7d' :: r => .ok (s, r)
    | ',' :: r =>
      match afterGaps memberName r with
      | .error e => .error e
      | .ok (name, r) =>
        match member fields name s r with
        | .error e => .error e
        | .ok (s, r) => moreMembers fields n s r
    | _ => .error .malformed

/-- The members of an object, after its opening brace. -/
def members (fields : List (Field σ)) (s : σ) : Reader σ := fun cs ↦
  match dropGaps cs with
  | '\x7d' :: r => .ok (s, r)
  | cs =>
    match memberName cs with
    | .error e => .error e
    | .ok (name, r) =>
      match member fields name s r with
      | .error e => .error e
      | .ok (s, r) => moreMembers fields r.length s r

/-- Whether a list goes on with another element, which is then next. -/
def another (first : Bool) : Reader Bool := fun cs ↦
  match dropGaps cs with
  | [] => .error .cutShort
  | ']' :: r => .ok (false, ']' :: r)
  | ',' :: r =>
    if first then .ok (true, ',' :: r)
    else
      match dropGaps r with
      | [] => .error .cutShort
      | ']' :: _ => .error .malformed
      | cs => .ok (true, cs)
  | cs => if first then .ok (true, cs) else .error .malformed

/-- The elements of a list as the fields in their order. -/
def elements (first : Bool) : List (Field σ) → σ → Reader σ
  | [], s => pure s
  | f :: fs, s => do
    if ← another first then
      elements false fs ((← f.read) s)
    else throw .mismatch

/-- The end of a list. -/
def listEnd : Reader Unit := afterGaps fun
  | [] => .error .cutShort
  | ']' :: r => .ok ((), r)
  | _ => .error .malformed

/-- The record, or the fault that a field is missing. -/
def complete (r : Record σ τ) (s : σ) : Reader τ :=
  match r.finish s with
  | some t => pure t
  | none => throw .mismatch

/-- Reads a record in either of its forms. -/
def read (r : Record σ τ) : Reader τ := afterGaps fun
  | [] => .error .cutShort
  | '[' :: cs => (do
      let t ← elements true r.fields r.start >>= r.complete
      listEnd
      return t) cs
  | '\x7b' :: cs => (members r.fields r.start >>= r.complete) cs
  | cs => otherwise cs

end Record

namespace Reader

/-- The end of the object that holds a variant. -/
def variantEnd : Reader Unit := afterGaps fun
  | [] => .error .cutShort
  | '\x7d' :: r => .ok ((), r)
  | _ => .error .malformed

/-- Reads a variant: `named` gives the reader of its content by its name, and `plain` the value of
one without content. -/
def variant {τ : Type} (plain : String → Option τ) (named : String → Option (Reader τ)) :
    Reader τ := afterGaps fun
  | [] => .error .cutShort
  | '"' :: r =>
    match textBody r with
    | .error e => .error e
    | .ok (name, r) =>
      match plain (.ofList name) with
      | some t => .ok (t, r)
      | none => .error .mismatch
  | '\x7b' :: r => (do
      let name ← afterGaps Record.memberName
      let content : Reader τ ←
        match plain name, named name with
        | some t, _ => pure (do null; return t)
        | none, some content => pure content
        | none, none => throw Fault.mismatch
      Record.colon
      let t ← content
      variantEnd
      return t) r
  | _ => .error .malformed

/-- A member of an object whose values are texts. -/
def entry : Reader (String × String) := do
  let name ← afterGaps Record.memberName
  Record.colon
  return (name, ← text)

/-- Further members, to the closing brace; there are no more of them than characters. -/
def moreEntries : Nat → Reader (List (String × String))
  | 0, _ => .error .cutShort
  | n + 1, cs =>
    match dropGaps cs with
    | [] => .error .cutShort
    | '\x7d' :: r => .ok ([], r)
    | ',' :: r => (List.cons <$> entry <*> moreEntries n) r
    | _ => .error .malformed

/-- The members of an object whose values are texts, in order. -/
def entries : Reader (List (String × String)) := afterGaps fun
  | [] => .error .cutShort
  | '\x7b' :: r =>
    match dropGaps r with
    | '\x7d' :: r => .ok ([], r)
    | cs => (List.cons <$> entry <*> moreEntries cs.length) cs
  | _ => .error .malformed

end Reader

end TokenMint.Json
