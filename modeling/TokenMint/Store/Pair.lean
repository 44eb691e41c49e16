import TokenMint.Store.PairFault
import TokenMint.Store.Transaction

/-! # Storing token pairs

A refresh token, its access token and the links of this to the default scopes are put in by one
transaction, which first takes out the refresh token that the pair replaces, with everything issued
along with it. If any statement fails, the transaction is rolled back. -/

namespace TokenMint.Store

/-- The statements of the transaction, the links counted from zero. -/
inductive PairStep where
  | begin
  | unlink
  | dropAccess
  | dropRefresh
  | addRefresh
  | readScopes
  | addAccess
  | link (k : Nat)
  | commit
deriving DecidableEq, Repr

/-- The statements that fail for reasons outside the database, and how. -/
abbrev PairOutage := PairStep → Option Fault

/-- Nothing fails for reasons outside the database. -/
def PairOutage.none : PairOutage := fun _ ↦ Option.none

namespace Pair

/-- Part of the transaction: it goes on after a statement that succeeds. -/
abbrev Work := ExceptT PairFault (StateM Transaction)

/-- One statement of the transaction, with what its failure means. -/
def statement {α : Type} (outage : PairOutage) (step : PairStep) (failed : String → PairFault)
    (s : Statement α) : Work α := fun t ↦
  match t.execute (match outage step with | some f => fun _ ↦ .error f | none => s) with
  | (.error f, t) => (.error (failed f.display), t)
  | (.ok (.error f), t) => (.error (failed f.text), t)
  | (.ok (.ok a), t) => (.ok a, t)

/-- Takes out a refresh token with its access token and the links of that. -/
def removeSuperseded (outage : PairOutage) (id : Int) : Work Unit := do
  let run (step : PairStep) (s : Statement Nat) := statement outage step .refreshToken s
  let _ ← run .unlink (Database.delete .links (·.unlink id))
  let _ ← run .dropAccess (Database.delete .accessTokens (·.removeAccess (·.refreshTokenId = id)))
  let gone ← run .dropRefresh (Database.delete .refreshTokens (·.removeRefresh id))
  if gone = 0 then throw (.superseded id)

/-- Links an access token to scopes. -/
def linkScopes (outage : PairOutage) (accessTokenId : Int) : Nat → List Scope → Work Unit
  | _, [] => pure ()
  | k, s :: ss => do
    statement outage (.link k) .accessToken (Database.insertLink accessTokenId s.id)
    linkScopes outage accessTokenId (k + 1) ss

/-- A query as a statement that changes nothing. -/
def reading {α : Type} (q : Query α) : Statement α := fun db ↦ do return (← q db, db)

/-- The statements between the beginning and the end of the transaction. -/
def work (outage : PairOutage) (pair : NewPair) : Work IssuedPair := do
  match pair.supersedes with
  | some id => removeSuperseded outage id
  | none => pure ()
  let refreshTokenId ← statement outage .addRefresh .refreshToken
    (Database.insertRefresh pair.refreshToken (.instant pair.refreshExpiresAt))
  let scopes ← statement outage .readScopes .accessToken (reading Database.defaultScopes)
  let accessTokenId ← statement outage .addAccess .accessToken
    (Database.insertAccess pair.accessToken (.instant pair.accessExpiresAt)
      pair.owner.clientId? pair.owner.userId? refreshTokenId)
  linkScopes outage accessTokenId 0 scopes
  return { accessTokenId, refreshTokenId, scopes }

end Pair

namespace Database

/-- Begins the transaction of a pair. -/
def startPair (db : Database) (outage : PairOutage) : Except Fault Transaction :=
  match outage .begin with
  | some f => .error f
  | none => Transaction.start db

/-- Stores a pair, or nothing. -/
def storePair (db : Database) (outage : PairOutage) (pair : NewPair) :
    Except PairFault IssuedPair × Database :=
  match db.startPair outage with
  | .error f =>
    (.error (if f.isConnection then .unavailable f.text else .refreshToken f.text), db)
  | .ok t =>
    match (Pair.work outage pair).run t with
    -- A rollback that fails is only logged: the database is as it was either way.
    | (.error e, t) => (.error e, t.rollback.2)
    | (.ok issued, t) =>
      match t.commit (outage .commit) with
      | (.ok (), db) => (.ok issued, db)
      | (.error f, db) => (.error (.commit f.display), db)

end Database

end TokenMint.Store
