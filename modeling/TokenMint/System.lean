import TokenMint.Service

/-! # The system

Any number of requests are under way at once, and one of them asks its next question at a time; in
between, administrators add and delete rows, and any statement may fail. A run is a list of such
events, from an empty store. All that has been asked and done is written to a log, which no
definition of the system looks at. -/

namespace TokenMint

open Store (Database Fault TableName Tables)

/-! ## What administrators do -/

/-- What is done to the store from outside any request. -/
inductive Act where
  | createUser (username hash : String)
  | createClient (clientId hash : String)
  | createScope (name : String) (isDefault : Bool)
  | delete (t : TableName) (id : Int)
  | storePair (pair : NewPair)
  | close
  | reopen
deriving DecidableEq, Repr

/-- What comes back of an act. -/
abbrev Act.Reply : Act → Type
  | .createUser _ _ | .createClient _ _ | .createScope _ _ => Except Failure Int
  | .delete _ _ => Except Fault Nat
  | .storePair _ => Except PairFault IssuedPair
  | .close | .reopen => Unit

/-- What comes of a statement, or of the outage that hits it. -/
def Outage.spare {α : Type} (o : Outage) (hit : Fault → α) (a : α) : α :=
  match o.query with
  | some f => hit f
  | none => a

/-- Does one act. -/
def Act.run (o : Outage) (db : Database) : (a : Act) → a.Reply × Database
  | .createUser username hash =>
    o.spare (fun f ↦ (.error (f.ofInsert "User"), db)) (db.createUser username hash)
  | .createClient clientId hash =>
    o.spare (fun f ↦ (.error (f.ofInsert "Client"), db)) (db.createClient clientId hash)
  | .createScope name isDefault =>
    o.spare (fun f ↦ (.error (f.ofInsert "Scope"), db)) (db.createScope name isDefault)
  | .delete t id => o.spare (fun f ↦ (.error f, db)) (db.execute (Database.deleteRow t id))
  | .storePair pair => db.storePair o.pair pair
  | .close => ((), db.close)
  | .reopen => ((), db.reopen)

/-! ## Systems -/

/-- A request under way: what it presents, and what is left of its program. -/
structure Thread where
  basic : Option Credentials
  request : TokenRequest
  rest : Program (Except Failure TokenResponse)

/-- What a request has been answered, if it is done. -/
def Thread.answer? (th : Thread) : Option (Except Failure TokenResponse) :=
  match th.rest with
  | .done a => some a
  | .ask _ _ => none

theorem Thread.answer?_eq_some {th : Thread} {a : Except Failure TokenResponse} :
    th.answer? = some a ↔ th.rest = .done a := by
  unfold answer?
  cases th.rest <;> simp

/-- A line of the log. -/
inductive Entry where
  | turn (i : Nat) (u : Turn)
  | act (a : Act) (reply : a.Reply)

/-- One thing that happens. -/
inductive Event where
  /-- A request arrives. -/
  | arrive (basic : Option Credentials) (request : TokenRequest)
  /-- A request asks its next question, if it has one. -/
  | ask (i : Nat) (outage : Outage)
  | administer (act : Act) (outage : Outage)

/-- The service, the requests in the order of their arrival, and the log. -/
structure System where
  service : Service := {}
  threads : List Thread := []
  log : List Entry := []

namespace System

variable (env : Surroundings) (lifetimes : Lifetimes)

def tables (σ : System) : Tables := σ.service.database.tables

/-- What a request has been answered, if it has arrived and is done. -/
def answer? (σ : System) (i : Nat) : Option (Except Failure TokenResponse) :=
  σ.threads[i]?.bind (·.answer?)

/-- A system on a database, before anything has happened. -/
def on (db : Database) : System := { service := { database := db } }

/-- One event. -/
def step (σ : System) : Event → System
  | .arrive basic request =>
    { σ with threads := σ.threads ++ [⟨basic, request, Endpoint.token lifetimes basic request⟩] }
  | .ask i outage =>
    match σ.threads[i]? with
    | some ⟨basic, request, .ask c next⟩ =>
      let (r, service) := σ.service.answer env outage c
      { service
        threads := σ.threads.set i ⟨basic, request, next r⟩
        log := σ.log ++ [.turn i ⟨c, r⟩] }
    | _ => σ
  | .administer act outage =>
    let (r, database) := act.run outage σ.service.database
    { σ with
      service := { σ.service with database }
      log := σ.log ++ [.act act r] }

/-- The system after some more events. -/
def resume (σ : System) (events : List Event) : System := events.foldl (step env lifetimes) σ

/-- The system after some events. -/
def run (events : List Event) : System := events.foldl (step env lifetimes) {}

end System

end TokenMint
