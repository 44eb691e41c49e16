import TokenMint.Grant.Endpoint
import TokenMint.Http.Request
import TokenMint.Http.Response
import TokenMint.Time.Timestamp

/-! # Routes

Tokens are issued at one path; two more tell whether the server is alive and whether it is ready. -/

namespace TokenMint.Http

/-- The path at which tokens are issued. -/
def tokenPath : String := "/v1/oauth/tokens"

/-- The answer to a method that a path does not know. -/
def notAllowed (allow : String) : Response := { status := 405, headers := [("allow", allow)] }

def notFound : Response := { status := 404 }

/-- A success as JSON, or the failure. -/
def respond {α : Type} [Wire α] : Except Failure α → Response
  | .ok a => .json 200 (Wire.write a)
  | .error f => .ofFailure f

/-- A state of health at an instant. -/
def healthBody (status : String) (now : Instant) : String :=
  Json.Tree.render (.object [("status", .text status), ("timestamp", .text (Timestamp.write now))])

/-- The server is alive. -/
def health : Program Response := do
  return .json 200 (healthBody "healthy" (← .call .now))

/-- The server is ready if its store can be reached. -/
def ready : Program Response := do
  match ← .call .health with
  | .error f => return .ofFailure f
  | .ok () => return .json 200 (healthBody "ready" (← .call .now))

/-- Exchanges what a request presents for tokens. A form that cannot be read is an empty one. -/
def exchange (lifetimes : Lifetimes) (r : Request) : Program Response := do
  return respond (← Endpoint.token lifetimes r.basic? (r.form?.getD {}))

/-- Answers the methods that look at something: the one without a body sends none back. -/
def looking (method : String) (p : Program Response) : Program Response :=
  if method = "GET" then p
  else if method = "HEAD" then do return { ← p with body := "" }
  else return notAllowed "GET,HEAD"

/-- Answers a request. -/
def route (lifetimes : Lifetimes) (r : Request) : Program Response :=
  let path := r.path
  if path = tokenPath then
    if r.method = "POST" then exchange lifetimes r else return notAllowed "POST"
  else if path = "/health" then looking r.method health
  else if path = "/ready" then looking r.method ready
  else return notFound

end TokenMint.Http
