import Std.Time.DateTime.Timestamp
import TokenMint.CommandLine.Admin
import TokenMint.CommandLine.Server

/-! # The program

One program holds both the administration and the start of the server; the first argument says
which of them is meant. The disk that it works on is empty when it begins and gone when it ends, and
there is nothing to listen on. -/

namespace TokenMint.CommandLine

/-- The variables that settle anything. -/
def knownVariables : List String :=
  ["ACCESS_TOKEN_LIFETIME", "BCRYPT_COST", "DATABASE_URL", "ENVIRONMENT", "HOST", "HTTP_PORT",
    "LOG_FORMAT", "LOG_INCLUDE_LOCATION", "LOG_INCLUDE_THREAD", "REFRESH_TOKEN_LIFETIME",
    "RUST_LOG", "SERVICE_NAME"]

/-- The values of the variables. -/
def readVariables : IO (String → Option String) := do
  let set ← knownVariables.filterMapM fun name ↦ do return (← IO.getEnv name).map ((name, ·))
  return fun name ↦ set.lookup name

def readClock : IO Instant := do
  let nanos := (← Std.Time.Timestamp.now).toNanosecondsSinceUnixEpoch.val
  return {
    second := nanos.fdiv Instant.nanosPerSecond
    nanos := (nanos.fmod Instant.nanosPerSecond).toNat }

/-- Prints what a program has logged and reported; gives its exit code. -/
def conclude {α : Type} (layout : Log.Layout) (o : Outcome α) : IO UInt32 := do
  for e in o.log do
    IO.println (e.printed layout (← readClock))
  for r in o.report? do
    for line in r.lines do
      IO.eprintln line
  return .ofNat o.exitCode

/-- A server that is ready fails all the same, for want of something to listen on. -/
def unbound : Outcome Server.Ready → Outcome Server.Ready
  | .done log r => .failed log r.unbound
  | o => o

end TokenMint.CommandLine

open TokenMint.CommandLine

def main (args : List String) : IO UInt32 := do
  let lookup ← readVariables
  let salt := (← IO.getRandomBytes 16).data.toList
  match args with
  | "admin" :: args => conclude {} (Admin.run lookup salt {} args).1
  | "server" :: args =>
    conclude (TokenMint.Log.Settings.load lookup).layout
      (unbound (Server.start lookup salt {} args).1)
  | _ => conclude {} (.stopped .misuse : Outcome Unit)
