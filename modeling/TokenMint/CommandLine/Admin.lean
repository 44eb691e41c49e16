import TokenMint.CommandLine.Outcome
import TokenMint.Config
import TokenMint.Secret

/-! # Administration

Users, clients and scopes are added to the database of the server from the command line, with the
server's own variables and standard values. -/

namespace TokenMint.CommandLine

/-- What is to be added. -/
inductive AdminCommand where
  | createUser (username password : String)
  | createClient (clientId secret : String)
  | createScope (name : String) (isDefault : Bool)
deriving DecidableEq, Repr

/-- A command line of the administration. -/
structure AdminRequest where
  command : AdminCommand
  /-- The location of the database, if it is given. -/
  location : Option String := none
  verbose : Bool := false
deriving DecidableEq, Repr

namespace AdminCommand

def userGrammar : Grammar :=
  { switches := [⟨"username", none, .value .text⟩, ⟨"password", none, .value .text⟩, helpSwitch] }

def clientGrammar : Grammar :=
  { switches := [⟨"client-id", none, .value .text⟩, ⟨"secret", none, .value .text⟩, helpSwitch] }

def scopeGrammar : Grammar :=
  { switches := [⟨"default", none, .flag⟩, helpSwitch], standing := ["scope"] }

def names : List String := ["create-user", "create-client", "create-scope"]

/-- Whether help is there for a row of names. -/
def explain : List String → Stop
  | [] => .help
  | name :: rest =>
    if name = "help" then explain rest
    else if name ∈ names ∧ rest = [] then .help
    else .misuse

/-- The command with a name and arguments. -/
def parse (name : String) (args : List String) : Except Stop AdminCommand :=
  match name with
  | "create-user" => do
    let g ← userGrammar.parse args
    return .createUser (← g.required "username") (← g.required "password")
  | "create-client" => do
    let g ← clientGrammar.parse args
    return .createClient (← g.required "client-id") (← g.required "secret")
  | "create-scope" => do
    let g ← scopeGrammar.parse args
    return .createScope (← g.required "scope") (g.has "default")
  | "help" => .error (explain args)
  | _ => .error .misuse

end AdminCommand

namespace AdminRequest

def grammar : Grammar :=
  { switches := [⟨"database-url", none, .value .text⟩, ⟨"verbose", some 'v', .flag⟩, helpSwitch]
    commands := "help" :: AdminCommand.names }

def parse (args : List String) : Except Stop AdminRequest := do
  match ← grammar.read {} args with
  | (_, none) => throw .misuse
  | (r, some (name, rest)) =>
    let command ← AdminCommand.parse name rest
    let given ← r.finish
    return { command, location := given.value? "database-url", verbose := given.has "verbose" }

/-- The text of the location: the given one, that of the variable, or the standard one. -/
def locationText (lookup : String → Option String) (r : AdminRequest) : String :=
  (r.location.or (lookup "DATABASE_URL")).getD Location.standard.connection

end AdminRequest

namespace Admin

def target : String := "token_admin"

/-- An event of the administration. -/
def event (message : String) (fields : List (String × Log.Value)) : Log.Event :=
  { level := .info, target, message, fields }

/-- Carries out a command; gives the event that tells of it. -/
def perform (cost : UInt32) (salt : List UInt8) (db : Store.Database) :
    AdminCommand → Except Failure Log.Event × Store.Database
  | .createUser username password =>
    match Secret.hash password cost salt with
    | .error f => (.error f, db)
    | .ok hash =>
      let (r, db) := db.createUser username hash
      (r.map fun id ↦ event "User created" [("id", .int id), ("username", .text username)], db)
  | .createClient clientId secret =>
    match Secret.hash secret cost salt with
    | .error f => (.error f, db)
    | .ok hash =>
      let (r, db) := db.createClient clientId hash
      (r.map fun id ↦ event "Client created" [("id", .int id), ("client_id", .text clientId)], db)
  | .createScope name isDefault =>
    let (r, db) := db.createScope name isDefault
    (r.map fun id ↦ event "Scope created"
      [("id", .int id), ("scope", .text name), ("default", .bool isDefault)], db)

/-- What the variables and the command line settle: the work factor, and the location. -/
def settings (lookup : String → Option String) (r : AdminRequest) :
    Except Config.Fault (UInt32 × Location) := do
  let cost ← Config.readCost lookup
  let location ← (Location.parse (r.locationText lookup)).mapError .location
  return (cost, location)

/-- Runs the administration on a disk. -/
def run (lookup : String → Option String) (salt : List UInt8) (d : Store.Disk)
    (args : List String) : Outcome Unit × Store.Disk :=
  match AdminRequest.parse args with
  | .error s => (.stopped s, d)
  | .ok r =>
    match settings lookup r with
    | .error f => (.failed [] { message := f.message, causes := f.causes }, d)
    | .ok (cost, location) =>
      match d.openLocation location with
      | (.error f, d) => (.failed [] (.ofOpening f), d)
      | (.ok opened, d) =>
        let connected := event ("Connected to database: " ++ r.locationText lookup) []
        let (result, db) := perform cost salt opened.database r.command
        let d := d.keep opened db
        match result with
        | .error f => (.failed [connected] (.ofFailure f), d)
        | .ok e => (.done [connected, e] (), d)

end Admin

end TokenMint.CommandLine
