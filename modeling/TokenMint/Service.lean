import TokenMint.Grant.Endpoint
import TokenMint.Store.Pair

/-! # The service

What a program asks for is answered from a database, from a placeholder that is made once and kept,
and from what is given from outside: a clock, a source of fresh tokens, and a way to hash and
verify secrets. -/

namespace TokenMint

open Store (Database Fault PairOutage)

/-- What is given from outside. -/
structure Surroundings where
  /-- Whether a secret has a hash. -/
  verify : String → String → Bool
  /-- The hash of the placeholder's secret, if it can be made. -/
  placeholder : Except Failure String
  /-- The readings of the clock, in order. -/
  clock : Nat → Instant
  /-- The fresh tokens, in order. -/
  token : Nat → String

/-- What fails for reasons outside the database while a question is answered. -/
structure Outage where
  query : Option Fault := none
  pair : PairOutage := PairOutage.none

/-- The state of a service. -/
structure Service where
  database : Database := {}
  /-- The placeholder, once it has been made. -/
  placeholder : Option String := none
  /-- How often the clock has been read. -/
  readings : Nat := 0
  /-- How many tokens have been drawn. -/
  drawn : Nat := 0

namespace Service

/-- Runs a query for `what`, unless it fails for reasons outside the database. -/
def look {α : Type} (s : Service) (o : Outage) (what : String) (q : Store.Query α) :
    Except Failure α :=
  s.database.look what (match o.query with | some f => fun _ ↦ .error f | none => q)

/-- The placeholder, made now if it has not been made before. Only a success is kept. -/
def obtainPlaceholder (env : Surroundings) (s : Service) : Except Failure String × Service :=
  match s.placeholder with
  | some hash => (.ok hash, s)
  | none =>
    match env.placeholder with
    | .ok hash => (.ok hash, { s with placeholder := some hash })
    | .error f => (.error f, s)

/-- Answers a question. -/
def answer (env : Surroundings) (o : Outage) (c : Call) : StateM Service c.Reply := fun s ↦
  match c with
  | .user username => (s.look o "user" (Database.user? username), s)
  | .client clientId => (s.look o "client" (Database.client? clientId), s)
  | .refreshToken token => (s.look o "refresh token" (Database.refreshToken? token), s)
  | .accessToken id => (s.look o "access token" (Database.accessToken? id), s)
  | .storePair pair =>
    let (r, database) := s.database.storePair o.pair pair
    (r, { s with database })
  | .health => (s.look o "health check" Database.health, s)
  | .verify secret hash => (env.verify secret hash, s)
  | .placeholder => s.obtainPlaceholder env
  | .now => (env.clock s.readings, { s with readings := s.readings + 1 })
  | .freshToken => (env.token s.drawn, { s with drawn := s.drawn + 1 })

end Service

end TokenMint
