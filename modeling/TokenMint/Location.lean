import TokenMint.Text.Pieces

/-! # Database locations

A location is written as a URL of the scheme `sqlite`, with or without slashes after the colon, or
as a bare path. -/

namespace TokenMint

/-- Where the database lives: in a file, or in memory for as long as it is open. -/
inductive Location where
  | file (path : String)
  | memory
deriving DecidableEq, Repr

namespace Location

/-- Why a text names no location. -/
inductive Fault where
  | missingPath
  | unsupportedScheme (url : String)
deriving DecidableEq, Repr

/-- The wording of a fault. -/
def Fault.message : Fault → String
  | .missingPath => "DATABASE_URL is missing a file path"
  | .unsupportedScheme url => "Unsupported database scheme in '" ++ url ++ "'"

/-- What stands after the scheme, if the text has the scheme. -/
def afterScheme? (s : String) : Option String :=
  (Text.after? "sqlite://" s).or (Text.after? "sqlite:" s)

/-- The location that a text names. A text of another scheme is refused; one of none is a path. -/
def parse (s : String) : Except Fault Location :=
  match afterScheme? s with
  | some path =>
    if path = ":memory:" then .ok .memory
    else if path = "" then .error .missingPath
    else .ok (.file path)
  | none => if Text.contains "://" s then .error (.unsupportedScheme s) else .ok (.file s)

/-- The text handed to whatever opens the database. -/
def connection : Location → String
  | .file path => "sqlite:" ++ path
  | .memory => "sqlite::memory:"

def isMemory (l : Location) : Bool := l = .memory

/-- The file used when no location is given. -/
def standard : Location := .file "./data/oauth2_tokens.db"

end Location

end TokenMint
