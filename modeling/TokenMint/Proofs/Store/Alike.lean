import Mathlib.Data.List.Forall2
import TokenMint.Proofs.Store.Attempt
import TokenMint.Service

/-! # Faults that look alike

Of a fault just one thing is ever looked at: whether it is the lack of a connection.  The rest is
wording, and goes into the causes of a failure.  So if two outages hit the same statements with
faults that look alike, whatever is asked of a database comes out the same but for these causes, and
the database does as well. -/

namespace TokenMint

/-- One value on both sides, or errors on both sides that are alike. -/
inductive Coincide {ε α : Type} (alike : ε → ε → Prop) : Except ε α → Except ε α → Prop
  | ok (a : α) : Coincide alike (.ok a) (.ok a)
  | error {e e' : ε} (h : alike e e') : Coincide alike (.error e) (.error e')

namespace Coincide

variable {ε ε' α β : Type} {alike : ε → ε → Prop} {alike' : ε' → ε' → Prop} {x y : Except ε α}

theorem refl (h : ∀ e, alike e e) (x : Except ε α) : Coincide alike x x := by
  cases x with
  | ok a => exact .ok a
  | error e => exact .error (h e)

theorem bind {f g : α → Except ε β} (h : Coincide alike x y)
    (hf : ∀ a, Coincide alike (f a) (g a)) : Coincide alike (x >>= f) (y >>= g) := by
  cases h with
  | ok a => exact hf a
  | error h => exact .error h

end Coincide

namespace Failure

/-- Two failures that differ at most in what caused them. -/
structure Alike (f g : Failure) : Prop where
  code : f.code = g.code
  message : f.message = g.message

theorem Alike.refl (f : Failure) : f.Alike f := ⟨rfl, rfl⟩

end Failure

namespace Store

/-! ## Faults and outages -/

/-- Both faults are the lack of a connection, or neither is. -/
def Fault.Alike (f g : Fault) : Prop := f.isConnection = g.isConnection

theorem Fault.Alike.refl (f : Fault) : f.Alike f := rfl

/-- What is reported of a query tells the connection, and no more of the fault. -/
theorem Fault.Alike.ofQuery {f g : Fault} (h : f.Alike g) (what : String) :
    (f.ofQuery what).Alike (g.ofQuery what) := by
  constructor <;> simp only [Fault.ofQuery, Failure.dueTo_code, Failure.dueTo_message, show
    f.isConnection = g.isConnection from h]

/-- Two outages hit the same statements, with faults that are alike. -/
def PairOutage.Alike (o o' : PairOutage) : Prop :=
  ∀ step, Option.Rel Fault.Alike (o step) (o' step)

namespace Pair

/-- Two breaches at one place, by faults that are alike. -/
inductive Breach.Alike : Breach → Breach → Prop
  | failed (step : PairStep) {f g : Fault} (h : f.Alike g) :
    Breach.Alike (.failed step f) (.failed step g)
  | superseded (id : Int) : Breach.Alike (.superseded id) (.superseded id)

theorem Breach.Alike.refl (b : Breach) : b.Alike b := by
  cases b with
  | failed step f => exact .failed step (.refl f)
  | superseded id => exact .superseded id

/-- The client is told the same of both. -/
theorem Breach.Alike.failure_report {b b' : Breach} (h : b.Alike b') :
    b.report.failure = b'.report.failure := by
  cases h with
  | superseded id => rfl
  | @failed step f g h =>
    cases step with
    | begin =>
      have hc : f.isConnection = g.isConnection := h
      simp only [Breach.report, PairStep.blame, hc]
      split <;> rfl
    | _ => rfl

/-- Two attempts come out the same on every database, but for faults that are alike. -/
def Parallel {α : Type} (a a' : Attempt α) : Prop := ∀ db, Coincide Breach.Alike (a db) (a' db)

namespace Parallel

variable {α β : Type} {a a' : Attempt α}

theorem refl (a : Attempt α) : Parallel a a := fun db ↦ .refl Breach.Alike.refl (a db)

theorem bind {f f' : α → Attempt β} (h : Parallel a a') (hf : ∀ x, Parallel (f x) (f' x)) :
    Parallel (a >>= f) (a' >>= f') :=
  fun db ↦ (h db).bind fun p ↦ hf p.1 p.2

theorem attempt {o o' : PairOutage} (h : o.Alike o') (step : PairStep) (s : Statement α) :
    Parallel (attempt o step s) (Pair.attempt o' step s) := by
  intro db
  have hstep := h step
  unfold Pair.attempt
  generalize o step = x, o' step = y at hstep
  cases hstep with
  | none => exact .refl Breach.Alike.refl _
  | some hfg => exact .error (.failed step hfg)

end Parallel

variable {o o' : PairOutage}

theorem parallel_supersede (h : o.Alike o') (id : Int) :
    Parallel (supersede o id) (supersede o' id) := by
  refine (Parallel.attempt h _ _).bind fun _ ↦ ?_
  refine (Parallel.attempt h _ _).bind fun _ ↦ ?_
  refine (Parallel.attempt h _ _).bind fun gone ↦ ?_
  exact .refl _

theorem parallel_retire (h : o.Alike o') (supersedes : Option Int) :
    Parallel (retire o supersedes) (retire o' supersedes) := by
  cases supersedes with
  | none => exact .refl _
  | some id => exact parallel_supersede h id

theorem parallel_attach (h : o.Alike o') (accessTokenId : Int) (k : Nat) (ss : List Scope) :
    Parallel (attach o accessTokenId k ss) (attach o' accessTokenId k ss) := by
  induction ss generalizing k with
  | nil => exact .refl _
  | cons s ss ih => exact (Parallel.attempt h _ _).bind fun _ ↦ ih (k + 1)

theorem parallel_install (h : o.Alike o') (pair : NewPair) :
    Parallel (install o pair) (install o' pair) := by
  refine (Parallel.attempt h _ _).bind fun refreshTokenId ↦ ?_
  refine (Parallel.attempt h _ _).bind fun scopes ↦ ?_
  refine (Parallel.attempt h _ _).bind fun accessTokenId ↦ ?_
  exact (parallel_attach h accessTokenId 0 scopes).bind fun _ ↦ .refl _

/-- The whole transaction comes out the same. -/
theorem parallel_transact (h : o.Alike o') (pair : NewPair) :
    Parallel (transact o pair) (transact o' pair) := by
  refine (Parallel.attempt h _ _).bind fun _ ↦ ?_
  refine Parallel.bind ?_ fun issued ↦ (Parallel.attempt h _ _).bind fun _ ↦ .refl _
  exact (parallel_retire h pair.supersedes).bind fun _ ↦ parallel_install h pair

end Pair

/-- Storing a pair comes out the same, and leaves the same database. -/
theorem Database.storePair_alike {o o' : PairOutage} (h : o.Alike o') (db : Database)
    (pair : NewPair) :
    Coincide (fun e e' ↦ e.failure = e'.failure) (db.storePair o pair).1 (db.storePair o' pair).1 ∧
      (db.storePair o pair).2 = (db.storePair o' pair).2 := by
  have hp := Pair.parallel_transact h pair db
  rw [storePair_eq, storePair_eq]
  generalize Pair.transact o pair db = x, Pair.transact o' pair db = y at hp
  cases hp with
  | ok p => exact ⟨.ok p.1, rfl⟩
  | error hb => exact ⟨.error hb.failure_report, rfl⟩

end Store

end TokenMint
