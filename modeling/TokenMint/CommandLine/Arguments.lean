import TokenMint.Text.Decimal
import TokenMint.Text.Pieces

/-! # Arguments

A command line is read from left to right against a grammar: the switches it may hold, the values
that stand by themselves, and the commands, at the first of which reading stops. A switch comes
once at most. One with a value takes what stands behind its equals sign, or else the next argument,
which must not look like a switch. After two lone hyphens every argument stands by itself. The first
thing that is wrong decides, unless help is asked for before. -/

namespace TokenMint.CommandLine

/-- The port that a text names: an integer, with or without a sign. -/
def readPort? (s : String) : Option UInt16 :=
  match Text.Decimal.read .signed64 s with
  | .ok n => if n ∈ Text.Decimal.Range.word16 then some (.ofNat n.toNat) else none
  | .error _ => none

/-- What a value may be. -/
inductive ValueKind where
  | text
  | port
deriving DecidableEq, Repr

def ValueKind.accepts : ValueKind → String → Bool
  | text, _ => true
  | port, s => (readPort? s).isSome

/-- What a switch does. -/
inductive SwitchKind where
  /-- It is either there or not. -/
  | flag
  | value (kind : ValueKind)
  /-- It asks for help. -/
  | help
deriving DecidableEq, Repr

structure Switch where
  long : String
  short : Option Char := none
  kind : SwitchKind
deriving DecidableEq, Repr

structure Grammar where
  switches : List Switch
  /-- The names of the values that stand by themselves, in order. -/
  standing : List String := []
  commands : List String := []
deriving DecidableEq, Repr

/-- Why reading stops short. -/
inductive Stop where
  /-- The arguments break the grammar. -/
  | misuse
  /-- They ask for help. -/
  | help
deriving DecidableEq, Repr

/-- What arguments have given. -/
structure Given where
  flags : List String := []
  values : List (String × String) := []
deriving DecidableEq, Repr

namespace Given

def has (g : Given) (name : String) : Bool := name ∈ g.flags

def value? (g : Given) (name : String) : Option String := g.values.lookup name

/-- A value that has to be there. -/
def required (g : Given) (name : String) : Except Stop String :=
  match g.value? name with
  | some v => .ok v
  | none => .error .misuse

def addFlag (g : Given) (name : String) : Except Stop Given :=
  if g.has name then .error .misuse else .ok { g with flags := g.flags ++ [name] }

def addValue (g : Given) (name : String) (kind : ValueKind) (value : String) : Except Stop Given :=
  if (g.value? name).isSome || !kind.accepts value then .error .misuse
  else .ok { g with values := g.values ++ [(name, value)] }

end Given

/-- A value that has been announced. -/
structure Pending where
  name : String
  kind : ValueKind
  /-- The value, as soon as it is known. -/
  value : Option String := none
deriving DecidableEq, Repr

/-- The state of reading. -/
structure Reading where
  given : Given := {}
  /-- The value announced last. It counts only when reading goes on. -/
  pending : Option Pending := none
  /-- How many standing values there have been. -/
  stood : Nat := 0
  /-- Whether every further argument stands by itself. -/
  standingOnly : Bool := false
deriving DecidableEq, Repr

namespace Reading

/-- Makes what was seen last count. -/
def settle (r : Reading) : Except Stop Reading :=
  match r.pending with
  | none => .ok r
  | some p =>
    match p.value with
    | none => .error .misuse
    | some value => do
      return { r with given := ← r.given.addValue p.name p.kind value, pending := none }

/-- Whether the next argument is the value of a switch. -/
def awaits (r : Reading) : Bool := r.pending.any (·.value.isNone)

/-- What has been given, once there are no more arguments. -/
def finish (r : Reading) : Except Stop Given := do return (← r.settle).given

end Reading

namespace Grammar

variable (g : Grammar)

/-- Takes a switch that is there or asks for help. -/
def takeFlag (s : Switch) (r : Reading) : Except Stop Reading := do
  let r ← r.settle
  match s.kind with
  | .help => throw .help
  | .flag => return { r with given := ← r.given.addFlag s.long }
  | .value _ => throw .misuse

/-- Takes a switch written in full, without its hyphens. -/
def takeLong (text : String) (r : Reading) : Except Stop Reading := do
  let (name, attached) := Text.cut '=' text
  match g.switches.find? (·.long = name), attached with
  | none, _ => throw .misuse
  | some s, none =>
    match s.kind with
    | .value kind => return { ← r.settle with pending := some { name := s.long, kind } }
    | .flag | .help => takeFlag s r
  | some s, some value =>
    match s.kind with
    | .value kind =>
      let r ← r.settle
      return { r with given := ← r.given.addValue s.long kind value }
    | .flag | .help => throw .misuse

/-- Takes one switch after another, each written as a letter. -/
def takeShort (letters : List Char) (r : Reading) : Except Stop Reading :=
  letters.foldlM (fun r c ↦
    match g.switches.find? (·.short = some c) with
    | none => .error .misuse
    | some s => takeFlag s r) r

/-- Takes an argument that is no switch. -/
def takeValue (text : String) (r : Reading) : Except Stop Reading :=
  if r.awaits && !r.standingOnly then
    .ok { r with pending := r.pending.map fun p ↦ { p with value := some text } }
  else
    match g.standing[r.stood]? with
    | none => .error .misuse
    | some name => do
      let pending := some { name, kind := .text, value := some text }
      return { ← r.settle with pending, stood := r.stood + 1 }

/-- Takes one argument. -/
def take (arg : String) (r : Reading) : Except Stop Reading :=
  if r.standingOnly then g.takeValue arg r
  else
    match arg.toList with
    | ['-', '-'] => .ok { r with standingOnly := true }
    | '-' :: '-' :: cs => g.takeLong (.ofList cs) r
    | '-' :: c :: cs => g.takeShort (c :: cs) r
    | _ => g.takeValue arg r

/-- Whether an argument is a command. -/
def isCommand (arg : String) (r : Reading) : Bool :=
  !r.standingOnly && !r.awaits && arg ∈ g.commands

/-- Reads arguments, as far as the first command; gives the command with what follows it. -/
def read (r : Reading) : List String → Except Stop (Reading × Option (String × List String))
  | [] => .ok (r, none)
  | arg :: args => do
    if g.isCommand arg r then return (r, some (arg, args))
    read (← g.take arg r) args

/-- Reads all arguments of a grammar without commands. -/
def parse (args : List String) : Except Stop Given := do (← g.read {} args).1.finish

end Grammar

/-- The switch that every grammar has. -/
def helpSwitch : Switch := { long := "help", short := some 'h', kind := .help }

end TokenMint.CommandLine
