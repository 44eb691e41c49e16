import TokenMint.Environment
import TokenMint.Lifetimes
import TokenMint.Location
import TokenMint.Text.Decimal

/-! # Server configuration

The server is configured by named variables. The two lifetimes are required; every other variable
has a standard value. Loading either gives a configuration that passes its checks, or the fault of
the first check that fails. -/

namespace TokenMint

/-- What the server is told at its start. -/
structure Config where
  port : UInt16
  host : String
  location : Location
  lifetimes : Lifetimes
  /-- The work factor with which secrets are hashed. -/
  cost : UInt32
  environment : Environment
deriving DecidableEq, Repr

namespace Config

/-- The variables that hold numbers. -/
inductive NumberVariable where
  | access
  | refresh
  | port
  | cost
deriving DecidableEq, Repr

def NumberVariable.name : NumberVariable → String
  | .access => "ACCESS_TOKEN_LIFETIME"
  | .refresh => "REFRESH_TOKEN_LIFETIME"
  | .port => "HTTP_PORT"
  | .cost => "BCRYPT_COST"

/-- Why variables do not make a configuration. -/
inductive Fault where
  | missing (v : NumberVariable)
  | number (v : NumberVariable) (fault : Text.Decimal.Fault)
  | location (fault : Location.Fault)
  | lifetime (fault : Lifetimes.Fault)
  | cost (found : UInt32)
  | memoryInProduction
deriving DecidableEq, Repr

namespace Fault

/-- The wording of a fault. -/
def message : Fault → String
  | .missing v => "Missing required environment variable " ++ v.name
  | .number v _ => "Invalid " ++ v.name ++ " value"
  | .location f => f.message
  | .lifetime f => f.message
  | .cost found => "BCRYPT_COST must be between 4 and 31, got " ++ toString found.toNat
  | .memoryInProduction => "In-memory database is not allowed in production; set DATABASE_URL"

/-- What lies behind a fault, if it is not the whole story. -/
def causes : Fault → List String
  | .number _ f => [f.message]
  | _ => []

end Fault

/-- The work factors of which a hash can be computed. -/
def CostAllowed (cost : UInt32) : Prop := 4 ≤ cost ∧ cost ≤ 31

instance (cost : UInt32) : Decidable (CostAllowed cost) := inferInstanceAs (Decidable (_ ∧ _))

def standardPort : UInt16 := 8080

def standardHost : String := "0.0.0.0"

def standardCost : UInt32 := 12

/-- The checks that look at a whole configuration: the work factor, then that a server in
production keeps its data. -/
def check (c : Config) : Except Fault Unit :=
  if ¬ CostAllowed c.cost then .error (.cost c.cost)
  else if c.environment.isProduction && c.location.isMemory then .error .memoryInProduction
  else .ok ()

/-- A variable's value, or the fault that it has none. -/
def required (lookup : String → Option String) (v : NumberVariable) : Except Fault String :=
  match lookup v.name with
  | some s => .ok s
  | none => .error (.missing v)

/-- The seconds that a required variable holds, with blanks around them allowed. -/
def seconds (lookup : String → Option String) (v : NumberVariable) : Except Fault Int := do
  (Text.Decimal.read .signed64 (Text.trim (← required lookup v))).mapError (.number v)

/-- The work factor that a variable holds, or the standard one. -/
def readCost (lookup : String → Option String) : Except Fault UInt32 :=
  match lookup NumberVariable.cost.name with
  | none => .ok standardCost
  | some s => (Text.Decimal.readWord32 s).mapError (.number .cost)

def readPort (lookup : String → Option String) : Except Fault UInt16 :=
  match lookup NumberVariable.port.name with
  | none => .ok standardPort
  | some s => (Text.Decimal.readWord16 s).mapError (.number .port)

def readLocation (lookup : String → Option String) : Except Fault Location :=
  match lookup "DATABASE_URL" with
  | none => .ok .standard
  | some s => (Location.parse s).mapError .location

def readEnvironment (lookup : String → Option String) : Environment :=
  match lookup "ENVIRONMENT" with
  | none => .development
  | some s => .ofText s

/-- The configuration that variables describe. -/
def load (lookup : String → Option String) : Except Fault Config := do
  let access ← seconds lookup .access
  let refresh ← seconds lookup .refresh
  let port ← readPort lookup
  let location ← readLocation lookup
  let lifetimes ← (Lifetimes.make access refresh).mapError .lifetime
  let cost ← readCost lookup
  let config : Config :=
    { port
      host := (lookup "HOST").getD standardHost
      location
      lifetimes
      cost
      environment := readEnvironment lookup }
  config.check
  return config

/-- The configuration in a few lines, for the log. -/
def summary (c : Config) : String :=
  "OAuth2 Token Server Configuration:"
    ++ "\n- Bind: " ++ c.host ++ ":" ++ toString c.port.toNat
    ++ "\n- Environment: " ++ c.environment.name
    ++ "\n- Database: " ++ c.location.connection
    ++ "\n- Access Token Lifetime: " ++ toString c.lifetimes.access ++ "s"
    ++ "\n- Refresh Token Lifetime: " ++ toString c.lifetimes.refresh ++ "s"

theorem check_eq_ok {c : Config} :
    c.check = .ok () ↔
      CostAllowed c.cost ∧ ¬ (c.environment = .production ∧ c.location = .memory) := by
  unfold check
  split
  · simp_all
  · split <;> simp_all [Environment.isProduction, Location.isMemory]

end Config

end TokenMint
