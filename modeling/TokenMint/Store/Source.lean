import TokenMint.Bytes.Form
import TokenMint.Text.Quoted

/-! # What a connection text asks for

A connection text is a scheme, the name of a database, and options after a question mark. The name
may be percent-coded, and the options are written like a form. -/

namespace TokenMint.Store

/-- Why a connection text names nothing. -/
inductive SourceFault where
  /-- The name is not text. -/
  | coding (fault : Bytes.Utf8.Fault)
  | unknownOption (name : String)
  | unknownValue (option value : String)
deriving DecidableEq, Repr

/-- The wording of a fault. -/
def SourceFault.message : SourceFault → String
  | .coding fault => fault.message
  | .unknownOption name => "unknown query parameter `" ++ name ++ "` while parsing connection URL"
  | .unknownValue option value =>
    "unknown value " ++ Text.Quoted.quote value ++ " for `" ++ option ++ "`"

/-- A database as a connection text asks for it. -/
structure Source where
  name : String := ""
  /-- Whether the database lives in memory, whatever its name. -/
  inMemory : Bool := false
  readOnly : Bool := false
  /-- Whether nothing else changes the file either. -/
  immutable : Bool := false
  /-- The file system to go through, if one is asked for by name. -/
  fileSystem : Option String := none
deriving DecidableEq, Repr

namespace Source

/-- The name of a database that lives in memory. -/
def memoryName : String := ":memory:"

/-- What a name alone asks for. Only the name of a database in memory is not percent-coded. -/
def ofName (name : String) : Except SourceFault Source :=
  if name = memoryName then .ok { inMemory := true }
  else
    match Bytes.Utf8.decode (Bytes.Form.percentDecode (Bytes.Utf8.encode name)) with
    | .ok name => .ok { name }
    | .error fault => .error (.coding fault)

/-- Heeds one option. -/
def set (s : Source) (option : String × String) : Except SourceFault Source :=
  let (name, value) := option
  let unknown : Except SourceFault Source := .error (.unknownValue name value)
  match name with
  | "mode" =>
    match value with
    | "ro" => .ok { s with readOnly := true }
    | "memory" => .ok { s with inMemory := true }
    | "rw" | "rwc" => .ok s
    | _ => unknown
  | "cache" => if value ∈ ["private", "shared"] then .ok s else unknown
  | "immutable" =>
    match value with
    | "true" | "1" => .ok { s with immutable := true }
    | "false" | "0" => .ok { s with immutable := false }
    | _ => unknown
  | "vfs" => .ok { s with fileSystem := some value }
  | _ => .error (.unknownOption name)

/-- The name and the options in a connection text. The scheme may be missing, and it may come more
than once. -/
def parts (connection : String) : String × Option String :=
  Text.cut '?' (Text.afterAll "sqlite:" (Text.afterAll "sqlite://" connection))

/-- What a connection text asks for. -/
def parse (connection : String) : Except SourceFault Source := do
  let (name, options) := parts connection
  (Bytes.Form.pairs (Bytes.Utf8.encode (options.getD ""))).foldlM set (← ofName name)

end Source

end TokenMint.Store
