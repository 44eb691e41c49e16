import TokenMint.Store.EngineError
import TokenMint.Store.Source

/-! # Addresses of databases

The engine is given a name and says where the database is and how it may be used. A name of the
scheme `file` is an address of its own: an authority, which must be this machine, a path, options
after a question mark, and a fragment, which does not count. Any other name is a path. -/

namespace TokenMint.Store

/-- How a file may be used, the least first. -/
inductive Access where
  | readOnly
  | existing
  /-- The file is made if it is not there. -/
  | creating
deriving DecidableEq, Repr

def Access.rank : Access → Nat
  | readOnly => 1
  | existing => 2
  | creating => 3

/-- Where a database is, and how it may be used. -/
structure Address where
  path : String := ""
  /-- Whether the database lives in memory, whatever its path. -/
  inMemory : Bool := false
  access : Access := .creating
  immutable : Bool := false
  /-- The file system to go through, if one is asked for by name. -/
  fileSystem : Option String := none
deriving DecidableEq, Repr

/-- Why the engine makes nothing of a name. -/
inductive AddressFault where
  /-- The name holds a character that no name may hold. -/
  | badName
  | engine (error : EngineError)
deriving DecidableEq, Repr

/-- What is said of a fault, from the outside in. -/
def AddressFault.causes : AddressFault → List String
  | .badName =>
    let text := "filename passed to SQLite must not contain nul bytes"
    ["error communicating with database: " ++ text, text]
  | .engine error => error.causes

namespace Address

def general (text : String) : AddressFault := .engine (.general text)

/-! ## Reading -/

/-- The text before the first character that ends every text of the engine. -/
def beforeEnd (s : String) : String := (Text.cut '\x00' s).1

/-- A part of an address without its percent signs. -/
def decoded (s : String) : String :=
  beforeEnd (Bytes.Utf8.lossy (Bytes.Form.percentDecode (Bytes.Utf8.encode s)))

/-- The path behind the authority, if there is one, which is empty or this machine. -/
def afterAuthority (s : String) : Except AddressFault String :=
  match Text.after? "//" s with
  | none => .ok s
  | some s =>
    let authority : String := .ofList (s.toList.takeWhile (· ≠ '/'))
    if authority = "" ∨ authority = "localhost" then .ok (.ofList (s.toList.dropWhile (· ≠ '/')))
    else .error (general ("invalid uri authority: " ++ authority))

/-- The options of an address, which all have names. -/
def options (s : String) : List (String × String) :=
  ((Text.split '&' s).map fun option ↦
    let (name, value) := Text.cut '=' option
    (decoded name, decoded (value.getD ""))).filter (·.1 ≠ "")

/-- Whether an option is switched on: by a word, or by a number that is not a multiple of 256. -/
def isOn (value : String) : Bool :=
  let digits := value.toList.takeWhile Char.isDigit
  if digits = [] then Text.lower value ∈ ["on", "yes", "true"]
  else
    let n := digits.foldl (fun n d ↦ 10 * n + (d.toNat - 48)) 0
    n < 2147483648 && n % 256 ≠ 0

/-- Gives an address a way to use the file, which may not be more than it has. -/
def restrict (a : Address) (mode : String) (access : Access) : Except AddressFault Address :=
  if a.inMemory ∨ access.rank ≤ a.access.rank then .ok { a with inMemory := false, access }
  else .error (.engine (.refused ("access mode not allowed: " ++ mode)))

/-- Heeds one option. Of several file systems the last one counts. -/
def set (a : Address) (option : String × String) : Except AddressFault Address :=
  let (name, value) := option
  match name with
  | "vfs" => .ok { a with fileSystem := some value }
  | "cache" =>
    if value ∈ ["shared", "private"] then .ok a
    else .error (general ("no such cache mode: " ++ value))
  | "mode" =>
    match value with
    | "ro" => a.restrict value .readOnly
    | "rw" => a.restrict value .existing
    | "rwc" => a.restrict value .creating
    | "memory" => .ok { a with inMemory := true, access := .creating }
    | _ => .error (general ("no such access mode: " ++ value))
  | _ => .ok a

/-- Reads a name of the scheme `file` after the colon. -/
def readUri (a : Address) (s : String) : Except AddressFault Address := do
  let s ← afterAuthority s
  let (path, query) := Text.cut '?' (Text.cut '#' s).1
  let options := options (query.getD "")
  let a := { a with
    path := decoded path
    immutable := (options.lookup "immutable").any isOn }
  options.foldlM set a

/-! ## File systems -/

/-- The file system whose files are in memory. -/
def memorySystem : String := "memdb"

/-- The file system that locks a file by making another one beside it. -/
def dotfileSystem : String := "unix-dotfile"

/-- The file systems that can be asked for. -/
def fileSystems : List String :=
  ["unix", "unix-none", dotfileSystem, "unix-excl", memorySystem]

/-- An address whose file system is there. -/
def check (a : Address) : Except AddressFault Address :=
  match a.fileSystem.filter (· ∉ fileSystems) with
  | some name => .error (general ("no such vfs: " ++ name))
  | none => .ok a

/-- The name of a file system as it is handed on. -/
def handedOn (name : String) : String :=
  beforeEnd (.ofList (name.toList.map fun c ↦ if c = ' ' then '+' else c))

/-- The address of a source. When a file system or immutability is asked for, the name is taken for
a path as it stands. -/
def ofSource (s : Source) : Except AddressFault Address := do
  let a : Address :=
    { inMemory := s.inMemory, access := if s.readOnly then .readOnly else .creating }
  let a ←
    if s.immutable ∨ s.fileSystem.isSome then
      .ok { a with
        path := beforeEnd s.name
        immutable := s.immutable
        fileSystem := s.fileSystem.map handedOn }
    else if s.name.toList.contains '\x00' then .error .badName
    else
      match Text.after? "file:" s.name with
      | some rest => a.readUri rest
      | none => .ok { a with path := s.name }
  a.check

/-! ## What is there -/

/-- Whether the database has no file in any file system. -/
def isUnfiled (a : Address) : Bool :=
  a.inMemory || a.path = "" || a.path = Source.memoryName

/-- The path to the file on the disk that holds the database, if there is one. Otherwise the
database is gone when it is closed. -/
def file? (a : Address) : Option String :=
  if a.isUnfiled ∨ a.fileSystem = some memorySystem then none else some a.path

/-- Whether nobody may write to the database. A file that nothing changes is not written to. -/
def isReadOnly (a : Address) : Bool := a.access = .readOnly || (a.immutable && !a.isUnfiled)

end Address

end TokenMint.Store
