/-! # Errors of the engine

The engine that keeps databases gives each of its errors a number and a text. -/

namespace TokenMint.Store

structure EngineError where
  code : Nat
  text : String
deriving DecidableEq, Repr

namespace EngineError

/-- What an address asks for makes no sense. -/
def general (text : String) : EngineError := ⟨1, text⟩

/-- What an address asks for is not allowed. -/
def refused (text : String) : EngineError := ⟨3, text⟩

/-- Something would be written to what may only be read. -/
def readOnly : EngineError := ⟨8, "attempt to write a readonly database"⟩

def cannotOpen : EngineError := ⟨14, "unable to open database file"⟩

/-- What has been opened as a file cannot be read. -/
def unreadable : EngineError := ⟨266, "disk I/O error"⟩

/-- What has been written to a file cannot be made to stay. -/
def unsteady : EngineError := ⟨1034, "disk I/O error"⟩

/-- A file cannot be locked. -/
def unlockable : EngineError := ⟨3850, "disk I/O error"⟩

/-- An error in the words of the engine. -/
def message (e : EngineError) : String := "(code: " ++ toString e.code ++ ") " ++ e.text

/-- An error as it is reported. -/
def report (e : EngineError) : String := "error returned from database: " ++ e.message

/-- The report, and what lies behind it. -/
def causes (e : EngineError) : List String := [e.report, e.message]

end EngineError

end TokenMint.Store
