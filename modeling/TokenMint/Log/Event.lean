import TokenMint.Json.Tree
import TokenMint.Log.Level
import TokenMint.Text.Pieces
import TokenMint.Text.Terminal
import TokenMint.Time.Timestamp

/-! # Events

An event is a message with named values. It is printed on a line of its own, in one of three
styles: in full, compactly, or as JSON. -/

namespace TokenMint.Log

/-- The value of a field, as it is printed. -/
inductive Value where
  | text (s : String)
  | int (n : Int)
  | bool (b : Bool)
deriving DecidableEq, Repr

structure Event where
  level : Level
  /-- The part of the program that the event comes from. -/
  target : String
  message : String
  fields : List (String × Value) := []
  /-- Where in the program the event comes from: a file and a line. -/
  file : String := ""
  line : Nat := 0
deriving DecidableEq, Repr

/-- The styles of a line. -/
inductive Format where
  | json
  | pretty
  | compact
deriving DecidableEq, Repr

namespace Format

def name : Format → String
  | json => "Json"
  | pretty => "Pretty"
  | compact => "Compact"

/-- The style that a variable asks for; without a known one, lines are printed in full. -/
def ofVariable : Option String → Format
  | some "json" => json
  | some "compact" => compact
  | _ => pretty

end Format

/-- How lines are printed. -/
structure Layout where
  format : Format := .pretty
  /-- Whether it is told where in the program an event comes from. -/
  withPlace : Bool := false
  /-- Whether it is told which thread an event comes from. -/
  withThread : Bool := false
deriving DecidableEq, Repr

namespace Value

def render : Value → String
  | text s => s
  | int n => toString n
  | bool b => if b then "true" else "false"

def tree : Value → Json.Tree
  | text s => .text s
  | int n => .int n
  | bool b => .bool b

end Value

namespace Event

/-- The names of the fields; the message is one of them. -/
def fieldNames (e : Event) : List String := "message" :: e.fields.map (·.1)

/-- The message and the values, as they stand in a line. Only the message is made safe to show. -/
def content (e : Event) : String :=
  Text.join " "
    (Text.Terminal.shown e.message :: e.fields.map fun f ↦ f.1 ++ "=" ++ f.2.render)

/-- The place of an event, as it stands in a line. -/
def place (e : Event) : String := e.file ++ ":" ++ toString e.line ++ ":"

/-- The level, as wide as the widest. -/
def paddedLevel (l : Level) : String :=
  .ofList (List.replicate (5 - l.name.length) ' ') ++ l.name

/-- A line in full, without its time. -/
def fullLine (o : Layout) (e : Event) : String :=
  paddedLevel e.level
    ++ (if o.withThread then " main ThreadId(01)" else "")
    ++ " " ++ e.target ++ ":"
    ++ (if o.withPlace then " " ++ e.place else "")
    ++ " " ++ e.content

/-- A line without any of the particulars. -/
def compactLine (e : Event) : String := paddedLevel e.level ++ " " ++ e.content

/-- An event at an instant as JSON. -/
def tree (o : Layout) (now : Instant) (e : Event) : Json.Tree :=
  .object ([("timestamp", .text (Timestamp.writeMicros now)), ("level", .text e.level.name),
      ("fields", .object (("message", .text e.message) :: e.fields.map fun f ↦ (f.1, f.2.tree))),
      ("target", .text e.target)]
    ++ (if o.withPlace then [("filename", .text e.file), ("line_number", .int e.line)] else [])
    ++ (if o.withThread then
      [("threadName", .text "main"), ("threadId", .text "ThreadId(1)")] else []))

/-- The line on which an event at an instant is printed. -/
def printed (o : Layout) (now : Instant) (e : Event) : String :=
  match o.format with
  | .json => (e.tree o now).render
  | .pretty => Timestamp.writeMicros now ++ " " ++ e.fullLine o
  | .compact => Timestamp.writeMicros now ++ " " ++ e.compactLine

end Event

end TokenMint.Log
