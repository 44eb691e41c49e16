import TokenMint.Failure
import TokenMint.Store.EngineError

/-! # Why a statement failed

A statement that fails leaves the store as it was. -/

namespace TokenMint.Store

/-- Why a statement failed. -/
inductive Fault where
  /-- The store could not be reached. -/
  | unreachable (text : String)
  /-- A value is there already that may be there once only. -/
  | unique
  /-- A row refers to one that is not there. -/
  | foreignKey
  /-- A value is missing. -/
  | notNull
  /-- A row breaks a rule of its table. -/
  | check
  /-- The engine refuses. -/
  | engine (error : EngineError)
  /-- Anything else. -/
  | other (text : String)
deriving DecidableEq, Repr

namespace Fault

/-- The store has been closed. -/
def closed : Fault := .unreachable "attempted to acquire a connection on a closed pool"

def noTable (name : String) : Fault := .other ("no such table: " ++ name)

/-- The wording of a fault. -/
def text : Fault → String
  | .unreachable s | .other s => s
  | .unique => "UNIQUE constraint failed"
  | .foreignKey => "FOREIGN KEY constraint failed"
  | .notNull => "NOT NULL constraint failed"
  | .check => "CHECK constraint failed"
  | .engine e => e.report

/-- What lies behind a fault, from the outside in, beginning with its own wording. -/
def causes : Fault → List String
  | .engine e => e.causes
  | f => [f.text]

/-- Whether the store could not be reached at all. -/
def isConnection : Fault → Bool
  | .unreachable _ => true
  | _ => false

/-- The failure reported when looking for `what` has failed. -/
def ofQuery (what : String) (f : Fault) : Failure :=
  (if f.isConnection then Failure.unavailable else .database ("Failed to query " ++ what)).dueTo
    f.causes

/-- The failure reported when adding `what` has failed. -/
def ofInsert (what : String) (f : Fault) : Failure :=
  if f = .unique then (Failure.invalidInput (what ++ " already exists")).because f.text
  else f.ofQuery what

end Fault

end TokenMint.Store
