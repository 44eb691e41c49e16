import TokenMint.CommandLine.Arguments
import TokenMint.Failure
import TokenMint.Log.Event
import TokenMint.Store.Opening

/-! # Outcomes

A program run from the command line stops at its arguments, fails with a report, or gets done. -/

namespace TokenMint.CommandLine

/-- Why a program failed, and what lies behind that, from the outside in. -/
structure Report where
  message : String
  causes : List String := []
deriving DecidableEq, Repr

namespace Report

/-- The causes as they are printed: several are numbered from zero. -/
def printedCauses (r : Report) : List String :=
  match r.causes with
  | [c] => [c]
  | cs => cs.zipIdx.map fun (c, i) ↦ toString i ++ ": " ++ c

/-- A report as it is printed. -/
def lines (r : Report) : List String :=
  let behind :=
    if r.causes = [] then [] else ["", "Caused by:"] ++ r.printedCauses.map ("    " ++ ·)
  ("Error: " ++ r.message) :: behind

def ofFailure (f : Failure) : Report := { message := f.display, causes := f.causes }

def ofOpening (f : Store.OpeningFault) : Report := { message := f.message, causes := f.causes }

end Report

inductive Outcome (α : Type) where
  | stopped (s : Stop)
  | failed (log : List Log.Event) (report : Report)
  | done (log : List Log.Event) (a : α)

namespace Outcome

variable {α : Type}

/-- The exit code of the program. -/
def exitCode : Outcome α → Nat
  | stopped .misuse => 2
  | stopped .help => 0
  | failed _ _ => 1
  | done _ _ => 0

/-- What has been logged. -/
def log : Outcome α → List Log.Event
  | stopped _ => []
  | failed log _ | done log _ => log

def report? : Outcome α → Option Report
  | failed _ r => some r
  | stopped _ | done _ _ => none

end Outcome

end TokenMint.CommandLine
