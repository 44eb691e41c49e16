import TokenMint.CommandLine.Outcome
import TokenMint.Config
import TokenMint.Grant.Endpoint
import TokenMint.Log.Settings
import TokenMint.Secret

/-! # Starting the server

The server reads its configuration, starts its log, opens its database and makes its placeholder
ready. After that it can listen. -/

namespace TokenMint.CommandLine.Server

def grammar : Grammar := { switches := [⟨"http-port", none, .value .port⟩, helpSwitch] }

/-- The port on the command line, if there is one. -/
def parse (args : List String) : Except Stop (Option UInt16) := do
  return (← grammar.parse args).value? "http-port" >>= readPort?

/-- A server that can listen. -/
structure Ready where
  config : Config
  settings : Log.Settings
  opened : Store.Opened
  /-- The hash that secrets of unknown principals are verified against. -/
  placeholder : String

/-- The report of a server that has nothing to listen on. -/
def Ready.unbound (r : Ready) : Report :=
  { message := "Failed to bind to " ++ r.config.host ++ ":" ++ toString r.config.port.toNat }

/-- An event of the server. -/
def event (message : String) (fields : List (String × Log.Value)) : Log.Event :=
  { level := .info, target := Log.Settings.serverTarget, message, fields
    file := "CommandLine/Server.lean", line := 48 }

/-- The events that tell of a start. -/
def greeting (settings : Log.Settings) (config : Config) : List Log.Event :=
  [settings.opening, event "Starting OAuth2 token server" [], event config.summary []]

/-- Starts the server on a disk. -/
def start (lookup : String → Option String) (salt : List UInt8) (d : Store.Disk)
    (args : List String) : Outcome Ready × Store.Disk :=
  match parse args with
  | .error s => (.stopped s, d)
  | .ok port =>
    match Config.load lookup with
    | .error f => (.failed [] { message := f.message, causes := f.causes }, d)
    | .ok config =>
      let config := { config with port := port.getD config.port }
      let settings := Log.Settings.load lookup
      let log := (greeting settings config).filter settings.allows
      match d.openLocation config.location with
      | (.error f, d) => (.failed log (.ofOpening f), d)
      | (.ok opened, d) =>
        let found := event "Database initialized" [("database", .text config.location.connection)]
        let log := log ++ [found].filter settings.allows
        match Secret.hash Endpoint.placeholderSecret config.cost salt with
        | .error f => (.failed log (.ofFailure f), d)
        | .ok placeholder => (.done log { config, settings, opened, placeholder }, d)

end TokenMint.CommandLine.Server
