import TokenMint.Store.Tables

/-! # The database

A database is its tables and what can get in the way of using them: it may be closed or for reading
only, tables may have been dropped, and adding rows to a table or taking rows from it may be
forbidden. A statement either succeeds or leaves the database as it was. -/

namespace TokenMint.Store

/-- What can be forbidden of a table's rows. -/
inductive Change where
  | insert
  | delete
deriving DecidableEq, Repr

structure Database where
  tables : Tables := {}
  /-- The tables that have been dropped. They have no rows. -/
  missing : List TableName := []
  /-- The changes that are forbidden. -/
  forbidden : List (TableName × Change) := []
  readOnly : Bool := false
  closed : Bool := false
deriving DecidableEq, Repr

/-- Reads a database, or fails. -/
abbrev Query (α : Type) := Database → Except Fault α

/-- Changes a database, or fails. -/
abbrev Statement (α : Type) := Database → Except Fault (α × Database)

namespace Database

variable (db : Database)

def has (t : TableName) : Bool := t ∉ db.missing

/-- Faults unless the database is open and has all of these tables. -/
def require (ts : List TableName) : Except Fault Unit :=
  if db.closed then .error .closed
  else
    match ts.find? fun t ↦ !db.has t with
    | some t => .error (.noTable t.name)
    | none => .ok ()

/-- Faults unless the database may be written to and has all of these tables. -/
def requireWritable (ts : List TableName) : Except Fault Unit := do
  db.require ts
  if db.readOnly then throw (.engine .readOnly)

/-- The result of a statement and the database after it, which a failure does not change. -/
def execute {α : Type} (s : Statement α) : Except Fault α × Database :=
  match s db with
  | .ok (a, db') => (.ok a, db')
  | .error f => (.error f, db)

@[simp] theorem execute_of_error {α : Type} {s : Statement α} {f : Fault} (h : s db = .error f) :
    db.execute s = (.error f, db) := by
  simp [execute, h]

@[simp] theorem execute_of_ok {α : Type} {s : Statement α} {a : α} {db' : Database}
    (h : s db = .ok (a, db')) : db.execute s = (.ok a, db') := by
  simp [execute, h]

/-! ## Statements -/

/-- Adds to a table, which has to be there with all that its rows refer to. -/
def insert {α : Type} (t : TableName) (add : Tables → Except Fault (α × Tables)) : Statement α :=
  fun db ↦ do
    db.requireWritable (t :: t.parents)
    if (t, .insert) ∈ db.forbidden then throw (.other "forced failure")
    let (a, tables) ← add db.tables
    return (a, { db with tables })

def insertUser (username hash : String) : Statement Int :=
  insert .users (·.addUser username hash)

def insertClient (clientId hash : String) : Statement Int :=
  insert .clients (·.addClient clientId hash)

def insertScope (name : String) (isDefault : Bool) : Statement Int :=
  insert .scopes (·.addScope name isDefault)

def insertRefresh (token : String) (expiry : Expiry) : Statement Int :=
  insert .refreshTokens (·.addRefresh token expiry)

def insertAccess (token : String) (expiry : Expiry) (clientId userId : Option Int)
    (refreshTokenId : Int) : Statement Int :=
  insert .accessTokens (·.addAccess token expiry clientId userId refreshTokenId)

def insertLink (accessTokenId scopeId : Int) : Statement Unit :=
  insert .links (·.addLink accessTokenId scopeId)

/-- An insertion with a value missing. -/
def insertNothing {α : Type} (t : TableName) : Statement α := insert t fun _ ↦ .error .notNull

/-- The tables that deleting links of access tokens involves. -/
def linkTables : List TableName := .links :: TableName.links.parents

/-- The tables that deleting access tokens involves. Their links go with them. -/
def accessTables : List TableName :=
  .accessTokens :: TableName.accessTokens.parents ++ if db.has .links then linkTables else []

/-- The tables that deleting from a table involves: those that have rows referring to it, as far as
they are there, and all that these refer to. -/
def deletionTables : TableName → List TableName
  | .links => linkTables
  | .accessTokens => db.accessTables
  | .scopes => .scopes :: if db.has .links then linkTables else []
  | t => t :: if db.has .accessTokens then db.accessTables else []

/-- Faults if rows would be gone from a table from which none may be deleted. -/
def allowDeletion (ts : List TableName) (after : Tables) : Except Fault Unit :=
  if ts.any fun t ↦
      (t, .delete) ∈ db.forbidden && after.count t < db.tables.count t then
    .error (.other "forced failure")
  else .ok ()

/-- Deletes from a table, with what refers to it; gives the number of its rows that are gone. -/
def delete (t : TableName) (remove : Tables → Tables) : Statement Nat := fun db ↦ do
  db.requireWritable (db.deletionTables t)
  let tables := remove db.tables
  db.allowDeletion TableName.all tables
  return (db.tables.count t - tables.count t, { db with tables })

/-- Deletes the row of a table with a number. -/
def deleteRow (t : TableName) (id : Int) : Statement Nat :=
  if t = .links then fun db ↦ do
    db.require (db.deletionTables t)
    throw (.other "no such column: id")
  else delete t (·.remove t id)

/-- Gives another expiry to the refresh token with a value; gives the number of changed rows. -/
def setExpiry (token : String) (expiry : Expiry) : Statement Nat := fun db ↦ do
  db.requireWritable [.refreshTokens]
  let rows := db.tables.refreshTokens.rows
  let changed := rows.map fun r ↦ if r.token = token then { r with expiry } else r
  return ((rows.filter (·.token = token)).length,
    { db with tables.refreshTokens.rows := changed })

/-- Drops a table, after deleting its rows with all that refers to them. -/
def drop (t : TableName) : Statement Unit := fun db ↦ do
  db.requireWritable [t]
  db.require ((db.deletionTables t).filter fun u ↦ u ≠ t && u ∉ t.parents)
  let tables := db.tables.clear t
  db.allowDeletion (TableName.all.filter (· ≠ t)) tables
  return ((), { db with
    tables
    missing := t :: db.missing
    forbidden := db.forbidden.filter (·.1 ≠ t) })

/-- Makes the tables that are missing. -/
def migrate : Statement Unit := fun db ↦ do
  if db.missing = [] then db.require [] else db.requireWritable []
  return ((), { db with missing := [] })

/-- Forbids a change of a table's rows. -/
def forbid (t : TableName) (c : Change) : Statement Unit := fun db ↦ do
  db.requireWritable [t]
  return ((), { db with forbidden := (t, c) :: db.forbidden })

/-- Allows a change of a table's rows again. -/
def allow (t : TableName) (c : Change) : Statement Unit := fun db ↦ do
  db.require []
  return ((), { db with forbidden := db.forbidden.filter (· ≠ (t, c)) })

/-- Closes a database for good. -/
def close : Database := { db with closed := true }

/-- A database without any tables. -/
def blank : Database := { missing := TableName.all }

/-- A database opened again as it was left. -/
def reopen : Database := { db with closed := false }

/-! ## Queries -/

/-- The value of a row that has to be readable, if there is a row. -/
def readable {ρ α : Type} (read : ρ → Option α) : Option ρ → Except Fault (Option α)
  | none => .ok none
  | some row =>
    match read row with
    | some a => .ok (some a)
    | none => .error (.other "invalid datetime")

def user? (username : String) : Query (Option User) := fun db ↦ do
  db.require [.users]
  return db.tables.users.rows.find? (·.username = username)

def client? (clientId : String) : Query (Option Client) := fun db ↦ do
  db.require [.clients]
  return db.tables.clients.rows.find? (·.clientId = clientId)

def refreshToken? (token : String) : Query (Option RefreshToken) := fun db ↦ do
  db.require [.refreshTokens]
  readable (·.token?) (db.tables.refreshTokens.rows.find? (·.token = token))

/-- The access token issued with a refresh token. -/
def accessToken? (refreshTokenId : Int) : Query (Option AccessToken) := fun db ↦ do
  db.require [.accessTokens]
  readable (·.token?) (db.tables.accessTokens.rows.find? (·.refreshTokenId = refreshTokenId))

/-- The names of the scopes that an access token has, in order. -/
def scopesOf (accessTokenId : Int) : Query (List String) := fun db ↦ do
  db.require [.links, .scopes]
  return db.tables.scopesOf accessTokenId

/-- The scopes that new access tokens get, in the order of their names. -/
def defaultScopes : Query (List Scope) := fun db ↦ do
  db.require [.scopes]
  return db.tables.defaultScopes

/-- Whether the database can be reached. -/
def health : Query Unit := fun db ↦ db.require []

/-- The tables, if all of them are there. -/
def contents : Query Tables := fun db ↦ do
  db.require TableName.all
  return db.tables

/-! ## Administration -/

/-- Runs an insertion of `what`, and reports its failure. -/
def register (what : String) (s : Statement Int) : Except Failure Int × Database :=
  let (r, db) := db.execute s
  (r.mapError (·.ofInsert what), db)

def createUser (username hash : String) : Except Failure Int × Database :=
  db.register "User" (insertUser username hash)

def createClient (clientId hash : String) : Except Failure Int × Database :=
  db.register "Client" (insertClient clientId hash)

def createScope (name : String) (isDefault : Bool) : Except Failure Int × Database :=
  db.register "Scope" (insertScope name isDefault)

/-- Runs a query for `what`, and reports its failure. -/
def look {α : Type} (what : String) (q : Query α) : Except Failure α :=
  (q db).mapError (·.ofQuery what)

end Database

end TokenMint.Store
