import TokenMint.Log.Event
import TokenMint.Log.Filter

/-! # Log settings

What is logged, and how, is settled by variables. To the directives that the operator gives, others
are added that quieten the libraries in use and set the level of the server itself. -/

namespace TokenMint.Log

structure Settings where
  /-- The directives of the operator. -/
  level : String := "info"
  layout : Layout := {}
  service : String := "oauth2-token-server"
  version : String := "0.1.0"
  environment : String := "development"
deriving DecidableEq, Repr

/-- Logging has been started before. -/
inductive StartFault where
  | alreadyStarted
deriving DecidableEq, Repr

def StartFault.message : StartFault → String
  | .alreadyStarted => "a global default trace dispatcher has already been set"

namespace Settings

/-- The target of everything that the server itself logs. -/
def serverTarget : String := "oauth2_token_server"

/-- The settings that variables ask for. In production, every line tells where it comes from. -/
def load (lookup : String → Option String) : Settings :=
  let environment := (lookup "ENVIRONMENT").getD "development"
  let inProduction := environment = "production"
  { level := (lookup "RUST_LOG").getD "info"
    layout :=
      { format := .ofVariable (lookup "LOG_FORMAT")
        withPlace := inProduction || (lookup "LOG_INCLUDE_LOCATION").isSome
        withThread := inProduction || (lookup "LOG_INCLUDE_THREAD").isSome }
    service := (lookup "SERVICE_NAME").getD "oauth2-token-server"
    environment }

/-- The directives that are added to those of the operator. -/
def added (s : Settings) : List String :=
  ["hyper=warn", "sqlx=warn", "sqlx::query=warn", "tower_http=info",
    serverTarget ++ "=" ++ s.level]

/-- The filter: what is no directive counts as the level for everything that is not grave. -/
def filter (s : Settings) : Filter :=
  (s.added.map fun d ↦ (Directive.parse? d).getD (.bare (.upTo .info))).foldl Filter.add
    (.ofText s.level)

/-- Whether an event is printed. -/
def allows (s : Settings) (e : Event) : Bool := s.filter.allows e.level e.target e.fieldNames

/-- The first event of a log, which tells the settings. -/
def opening (s : Settings) : Event :=
  { level := .info
    target := serverTarget ++ "::logging"
    message := "Logging initialized"
    fields := [
      ("service.name", .text s.service), ("service.version", .text s.version),
      ("environment", .text s.environment), ("log.level", .text s.level),
      ("log.format", .text s.layout.format.name)]
    file := "Log/Settings.lean"
    line := 64 }

/-- Starts logging with an event, unless it has been started before. -/
def start (s : Settings) (running : Option Settings) : Except StartFault Event :=
  match running with
  | none => .ok s.opening
  | some _ => .error .alreadyStarted

end Settings

end TokenMint.Log
