import TokenMint.Proofs.Store.Readiness

/-! # Registration by name

Users, clients and scopes are registered by a name, which no other row of their table may have.
Whatever stands in the way, a registration either adds one row, under the next number of the table,
or leaves the database as it is; in a database that is ready nothing but a row of the same name
stands in the way. -/

namespace TokenMint.Store

/-- What a name is registered for. -/
inductive Newcomer where
  | user (username hash : String)
  | client (clientId hash : String)
  | scope (name : String) (isDefault : Bool)
deriving DecidableEq, Repr

/-- The names in a table.  Tokens and links have none. -/
def Tables.names (t : Tables) : TableName → List String
  | .users => t.users.rows.map (·.username)
  | .clients => t.clients.rows.map (·.clientId)
  | .scopes => t.scopes.rows.map (·.name)
  | .refreshTokens | .accessTokens | .links => []

namespace Newcomer

def table : Newcomer → TableName
  | user _ _ => .users
  | client _ _ => .clients
  | scope _ _ => .scopes

def name : Newcomer → String
  | user name _ | client name _ | scope name _ => name

def kind : Newcomer → String
  | user _ _ => "User"
  | client _ _ => "Client"
  | scope _ _ => "Scope"

/-- Adds the row of a newcomer. -/
def put (t : Tables) : Newcomer → Except Fault (Int × Tables)
  | user username hash => t.addUser username hash
  | client clientId hash => t.addClient clientId hash
  | scope name isDefault => t.addScope name isDefault

/-- The tables with one more row, which has the number that has been counted last. -/
def joined (t : Tables) (id : Int) : Newcomer → Tables
  | user username hash => { t with users := ⟨t.users.rows ++ [⟨id, username, hash⟩], id⟩ }
  | client clientId hash => { t with clients := ⟨t.clients.rows ++ [⟨id, clientId, hash⟩], id⟩ }
  | scope name isDefault => { t with scopes := ⟨t.scopes.rows ++ [⟨id, name, isDefault⟩], id⟩ }

/-- Registers a newcomer. -/
def register (db : Database) : Newcomer → Except Failure Int × Database
  | user username hash => db.createUser username hash
  | client clientId hash => db.createClient clientId hash
  | scope name isDefault => db.createScope name isDefault

/-- What is reported of a name that is there already. -/
def taken (n : Newcomer) : Failure :=
  (Failure.invalidInput (n.kind ++ " already exists")).because Fault.unique.text

/-! ## One more row -/

section Tables

variable (n : Newcomer) (t : Tables)

theorem put_eq :
    n.put t =
      if n.name ∈ t.names n.table then .error .unique
      else .ok (t.last n.table + 1, n.joined t (t.last n.table + 1)) := by
  cases n with
  | user username hash =>
    simp only [put, Tables.addUser, List.any_eq_true, decide_eq_true_iff, Tables.names, table, name,
      List.mem_map]
    rfl
  | client clientId hash =>
    simp only [put, Tables.addClient, List.any_eq_true, decide_eq_true_iff, Tables.names, table,
      name, List.mem_map]
    rfl
  | scope name isDefault =>
    simp only [put, Tables.addScope, List.any_eq_true, decide_eq_true_iff, Tables.names, table,
      Newcomer.name, List.mem_map]
    rfl

@[simp] theorem last_joined (id : Int) : (n.joined t id).last n.table = id := by
  cases n <;> rfl

end Tables

/-! ## Registration -/

variable {n : Newcomer} {db : Database}

theorem register_eq (n : Newcomer) (db : Database) :
    n.register db = db.register n.kind (Database.insert n.table (n.put ·)) := by
  cases n <;> rfl

/-- A newcomer is registered under the next number of its table, or nothing has happened. -/
theorem register_cases (n : Newcomer) (db : Database) :
    n.register db = (.ok (db.tables.last n.table + 1),
        { db with tables := n.joined db.tables (db.tables.last n.table + 1) }) ∨
      ∃ f, n.register db = (.error f, db) := by
  rw [register_eq, Database.register]
  cases h : Database.insert n.table (n.put ·) db with
  | error f =>
    rw [db.execute_of_error h]
    exact .inr ⟨_, rfl⟩
  | ok p =>
    obtain ⟨id, db'⟩ := p
    rw [db.execute_of_ok h]
    obtain ⟨-, -, t, ht, rfl⟩ := Database.insert_eq_ok.mp h
    rw [put_eq] at ht
    split at ht
    · cases ht
    · cases ht
      exact .inl rfl

/-- In a ready database a name is registered if and only if it is not there yet. -/
theorem register_of_ready (h : db.Ready) (n : Newcomer) :
    n.register db =
      if n.name ∈ db.tables.names n.table then (.error n.taken, db)
      else (.ok (db.tables.last n.table + 1),
        { db with tables := n.joined db.tables (db.tables.last n.table + 1) }) := by
  have hput := n.put_eq db.tables
  by_cases hname : n.name ∈ db.tables.names n.table
  · rw [if_pos hname] at hput ⊢
    rw [register_eq, Database.register, db.execute_of_error (h.insert_of_error hput)]
    rfl
  · rw [if_neg hname] at hput ⊢
    rw [register_eq, Database.register, db.execute_of_ok (h.insert hput)]
    rfl

end Newcomer

end TokenMint.Store
