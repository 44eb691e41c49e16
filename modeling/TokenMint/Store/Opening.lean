import TokenMint.Location
import TokenMint.Store.Address
import TokenMint.Store.Disk

/-! # Opening a database

Opening a database finds it on the disk or makes it, and then makes the tables that it lacks. A
database in memory is a new one each time. -/

namespace TokenMint.Store

/-- Why a database was not opened. -/
inductive OpeningFault where
  /-- The directory of the file could not be made. -/
  | directory (path : String) (obstacle : Obstacle)
  /-- The connection text makes no sense. -/
  | source (connection : String) (fault : SourceFault)
  /-- There is no database where the connection text says. -/
  | connection (connection : String) (fault : AddressFault)
  /-- Tables are missing and cannot be made. -/
  | tables (fault : Fault)
deriving DecidableEq, Repr

namespace OpeningFault

/-- The wording of a fault. -/
def message : OpeningFault → String
  | .directory path _ => "Failed to create " ++ path
  | .source text _ => "Invalid database URL: " ++ text
  | .connection text _ => "Failed to connect to " ++ text
  | .tables f => f.text

/-- What lies behind a fault, from the outside in. -/
def causes : OpeningFault → List String
  | .directory _ o => [o.message]
  | .source _ f => ["error with configuration: " ++ f.message, f.message]
  | .connection _ f => f.causes
  | .tables f => f.causes.tail

end OpeningFault

/-- A database that has been opened. -/
structure Opened where
  database : Database := {}
  /-- The place of its file, if its contents are kept there. -/
  place : Option Place := none
deriving DecidableEq, Repr

namespace Disk

/-! ## Finding the file -/

/-- The longest place that the engine passes through, in bytes. -/
def longestWay : Nat := 511

/-- The longest place of a file that the engine opens, in bytes. -/
def longestPlace : Nat := 504

/-- One step of the engine on its way to a file. It goes on where nothing is, since a later name may
lead up again. -/
def follow (d : Disk) (p : Place) (name : String) : Option Place :=
  if name = "" ∨ name = "." then some p
  else if name = ".." then some p.dropLast
  else
    let q := p ++ [name]
    if longestWay < q.size then none
    else
      match d.node? p with
      | some .directory => if Path.longestName < name.utf8ByteSize then none else some q
      | some _ => none
      | none => some q

/-- The place to which a path leads the engine. -/
def filePlace? (d : Disk) (path : String) : Option Place := do
  let p ← (Text.split '/' path).foldlM d.follow (d.origin path)
  if p ≠ [] ∧ p.size ≤ longestPlace then some p else none

/-- Opens a file, or makes an empty one in a directory that is there. A directory is opened only for
reading, and then cannot be read. -/
def openFile (d : Disk) (access : Access) (path : String) :
    Except EngineError (Place × Node) × Disk :=
  match d.filePlace? path with
  | none => (.error .cannotOpen, d)
  | some p =>
    match d.node? p with
    | some .directory => (.error (if access = .readOnly then .unreadable else .cannotOpen), d)
    | some n => (.ok (p, n), d)
    | none =>
      if access = .creating ∧ d.node? p.dropLast = some .directory then
        (.ok (p, .file .blank), d.put p (.file .blank))
      else (.error .cannotOpen, d)

/-! ## Making the tables -/

/-- Whether a file can have another one beside it whose name is so many bytes longer. -/
def hasRoom (p : Place) (more : Nat) : Bool :=
  p.getLast?.all fun name ↦ name.utf8ByteSize + more ≤ Path.longestName

/-- Makes the tables that a database lacks. -/
def completed (readOnly : Bool) (db : Database) : Except Fault Database := do
  return (← Database.migrate { db.reopen with readOnly }).2

/-- Makes the tables that the database in a file lacks. Files are locked, if not by the disk then by
a file beside them, and changes are first noted in another one there. -/
def completedFile (a : Address) (p : Place) (db : Database) : Except Fault Database :=
  if a.fileSystem = some Address.dotfileSystem ∧ ¬ a.immutable ∧ ¬ hasRoom p 5 then
    .error (.engine .unlockable)
  else if ¬ a.isReadOnly ∧ ¬ hasRoom p 8 ∧ db.missing ≠ [] then .error (.engine .cannotOpen)
  else completed a.isReadOnly db

/-- The database in a file that the engine has opened. One that may only be read is not kept. -/
def openNode (d : Disk) (a : Address) (p : Place) : Node → Except Fault Opened × Disk
  | .file db =>
    match completedFile a p db with
    | .error f => (.error f, d)
    | .ok database =>
      if a.isReadOnly then (.ok { database }, d)
      else (.ok { database, place := some p }, d.put p (.file database))
  | _ => (.error (.engine (if a.isReadOnly then .readOnly else .unsteady)), d)

/-! ## Opening -/

/-- The longest path that names something in memory, in bytes. -/
def longestMemoryPath : Nat := 1016

/-- A database that is gone when it is closed. -/
def openTransient (connection : String) (a : Address) : Except OpeningFault Opened :=
  if ¬ a.isUnfiled ∧ longestMemoryPath < a.path.utf8ByteSize then
    .error (.connection connection (.engine .cannotOpen))
  else ((completed a.isReadOnly .blank).map fun database ↦ { database }).mapError .tables

/-- Opens the database at an address. -/
def openAddress (d : Disk) (connection : String) (a : Address) :
    Except OpeningFault Opened × Disk :=
  match a.file? with
  | none => (openTransient connection a, d)
  | some path =>
    match d.openFile a.access path with
    | (.error e, d) => (.error (.connection connection (.engine e)), d)
    | (.ok (p, n), d) =>
      let (opened, d) := d.openNode a p n
      (opened.mapError .tables, d)

/-- Opens what a connection text names. -/
def openConnection (d : Disk) (connection : String) : Except OpeningFault Opened × Disk :=
  match Source.parse connection with
  | .error f => (.error (.source connection f), d)
  | .ok s =>
    match Address.ofSource s with
    | .error f => (.error (.connection connection f), d)
    | .ok a => d.openAddress connection a

/-- Makes the directory of a location's file. -/
def prepare (d : Disk) : Location → Except OpeningFault Unit × Disk
  | .memory => (.ok (), d)
  | .file path =>
    match Path.parent? path with
    | none => (.ok (), d)
    | some parent =>
      let (made, d) := d.makeDirectory parent
      (made.mapError (.directory parent), d)

/-- Opens the database at a location, whose directory is made if it is not there. -/
def openLocation (d : Disk) (l : Location) : Except OpeningFault Opened × Disk :=
  match d.prepare l with
  | (.error f, d) => (.error f, d)
  | (.ok (), d) => d.openConnection l.connection

/-- Keeps the contents of a database that was opened. -/
def keep (d : Disk) (o : Opened) (db : Database) : Disk :=
  match o.place with
  | none => d
  | some p => d.put p (.file db)

end Disk

end TokenMint.Store
