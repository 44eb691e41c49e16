import TokenMint.Log.Level

/-! # Directives

A directive sets the threshold for the events of some targets. It is written as a level, as a
target, or as both with an equals sign between them; brackets after the target confine it to spans
of some name or to whatever has certain fields. -/

namespace TokenMint.Log

/-- A field that a directive asks for. -/
structure FieldPattern where
  name : String
  /-- Whether the field also has to have a certain value. -/
  hasValue : Bool
deriving DecidableEq, Repr

def FieldPattern.ofText? (s : String) : Option FieldPattern :=
  if s = "" then none
  else
    let (name, value) := Text.cut '=' s
    some { name, hasValue := value.isSome }

structure Directive where
  /-- What the target of an event has to begin with. -/
  target : Option String := none
  /-- The name that a span has to have. -/
  span : Option String := none
  fields : List FieldPattern := []
  threshold : Threshold := .upTo .trace
deriving DecidableEq, Repr

namespace Directive

/-- The directive that sets the threshold for whatever no other directive is about. -/
def bare (t : Threshold) : Directive := { threshold := t }

/-- Whether a directive can begin with a character. Beyond ASCII, every character counts as a
letter. -/
def canBegin (c : Char) : Bool := c ∈ ['-', ':', '_'] || c.isAlphanum || 0x80 ≤ c.toNat

/-- What comes before the first of some characters, and the rest from there. -/
def upTo (stops cs : List Char) : String × List Char :=
  (.ofList (cs.takeWhile (· ∉ stops)), cs.dropWhile (· ∉ stops))

/-! ## Reading

The blanks at the end of a text are set aside while it is read. Where they come right behind its
last word they belong to it all the same; after a bracket or a comma they do not count. -/

/-- The threshold after an equals sign, where none stands for everything. It may end with a
comma. -/
def readThreshold (blanks cs : List Char) : Option Threshold :=
  let threshold (word : String) : Option Threshold :=
    if word = "" then some (.upTo .trace) else Threshold.ofText? word
  match upTo [','] cs with
  | (word, []) => threshold (word ++ .ofList blanks)
  | (word, [_]) => threshold word
  | _ => none

/-- Reads what may come after the brackets: a threshold. -/
def readRest (d : Directive) (blanks : List Char) : List Char → Option Directive
  | [] => some d
  | '=' :: cs => do return { d with threshold := ← readThreshold blanks cs }
  | _ => none

/-- Reads on after the opening bracket. -/
def readSpan (d : Directive) (blanks cs : List Char) : Option Directive :=
  match upTo [']', '\x7b'] cs with
  | (name, ']' :: rest) => readRest { d with span := some name } blanks rest
  | (name, '\x7b' :: rest) =>
    match upTo ['\x7d'] rest with
    | (fields, '\x7d' :: ']' :: rest) => do
      let fields ← (Text.split ',' fields).mapM FieldPattern.ofText?
      readRest { d with span := if name = "" then none else some name, fields } blanks rest
    | _ => none
  | _ => none

/-- The directive that a text stands for. A lone word that is no threshold is a target, all of
whose events are let through. -/
def parse? (s : String) : Option Directive :=
  let (cs, blanks) := Text.cutEnd s.toList
  match cs with
  | [] => none
  | '[' :: rest => readSpan {} blanks rest
  | c :: cs =>
    if ¬ canBegin c then none
    else
      match upTo ['=', '['] (c :: cs) with
      | (word, []) =>
        let word := word ++ .ofList blanks
        match Threshold.ofText? word with
        | some t => some (bare t)
        | none => some { target := some word }
      | (word, '=' :: rest) => do
        return { target := some word, threshold := ← readThreshold blanks rest }
      | (word, _ :: rest) => readSpan { target := some word } blanks rest

/-- Whether a directive is about events, and not only about what happens within spans. -/
def isForEvents (d : Directive) : Bool := d.span.isNone && d.fields.all fun f ↦ !f.hasValue

/-- The names of the fields that a directive asks for. -/
def fieldNames (d : Directive) : List String := d.fields.map (·.name)

/-- Whether a directive is about an event with a target and with fields of these names. -/
def concerns (d : Directive) (target : String) (fields : List String) : Bool :=
  d.target.all (fun t ↦ t.toList.isPrefixOf target.toList) && d.fieldNames.all (· ∈ fields)

/-- Whether two directives are about the same events. -/
def sameScope (d e : Directive) : Bool := d.target = e.target && d.fieldNames = e.fieldNames

/-- How much of a target a directive gives: nothing at all is less than an empty part. -/
def reach (d : Directive) : Nat := (d.target.map (·.utf8ByteSize + 1)).getD 0

/-- Whether a directive goes before another: one with a longer target, then one with more fields
does. -/
def isMoreSpecific (d e : Directive) : Bool :=
  if d.reach ≠ e.reach then e.reach < d.reach
  else if d.fields.length ≠ e.fields.length then e.fields.length < d.fields.length
  else if d.target ≠ e.target then e.target.getD "" < d.target.getD ""
  else decide (e.fieldNames < d.fieldNames)

end Directive

end TokenMint.Log
