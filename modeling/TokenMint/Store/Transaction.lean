import TokenMint.Store.Database

/-! # Transactions

A transaction works on the database apart: what its statements change counts only once it is
committed. Rolling it back, or letting it go, leaves the database as it was when the transaction
began. It ends once. -/

namespace TokenMint.Store

/-- A transaction under way, or one that has ended. -/
structure Transaction where
  /-- The database when the transaction began. -/
  before : Database
  /-- The database as changed so far, until the transaction ends. -/
  working : Option Database
deriving DecidableEq, Repr

namespace Transaction

/-- A new transaction on a database that can be reached. -/
def start (db : Database) : Except Fault Transaction := do
  db.require []
  return { before := db, working := some db }

/-- The database on which the statements of the transaction run. -/
def executor (t : Transaction) : Except Failure Database :=
  match t.working with
  | some db => .ok db
  | none => .error (.internal "Transaction already consumed - guard used after commit/rollback")

/-- Runs a statement. One that fails changes nothing, and the transaction goes on. -/
def execute {α : Type} (t : Transaction) (s : Statement α) :
    Except Failure (Except Fault α) × Transaction :=
  match t.executor with
  | .error f => (.error f, t)
  | .ok db =>
    let (r, db) := db.execute s
    (.ok r, { t with working := some db })

/-- Makes the changes count, unless committing them fails. -/
def commit (t : Transaction) (fault : Option Fault) : Except Failure Unit × Database :=
  match t.working, fault with
  | none, _ => (.error (.internal "Transaction already consumed - cannot commit"), t.before)
  | some db, none => (.ok (), db)
  | some _, some f =>
    (.error ((Failure.database ("Transaction commit failed: " ++ f.text)).because f.text), t.before)

/-- Drops the changes. If that fails, they are dropped all the same, as by letting go. -/
def rollback (t : Transaction) (fault : Option Fault := none) : Except Failure Unit × Database :=
  match t.working, fault with
  | none, _ => (.error (.internal "Transaction already consumed - cannot rollback"), t.before)
  | some _, none => (.ok (), t.before)
  | some _, some f =>
    (.error ((Failure.database ("Transaction rollback failed: " ++ f.text)).because f.text),
      t.before)

/-- Lets a transaction go that has not ended: its changes are dropped. -/
def abandon (t : Transaction) : Database := t.before

@[simp] theorem rollback_snd (t : Transaction) (fault : Option Fault) :
    (t.rollback fault).2 = t.before := by
  unfold rollback
  split <;> rfl

end Transaction

end TokenMint.Store
