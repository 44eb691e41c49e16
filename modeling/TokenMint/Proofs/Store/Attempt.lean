import TokenMint.Proofs.Store.Statement
import TokenMint.Store.Pair

/-! # The transaction of a pair as one attempt

`Pair.work` reports what went wrong in the words of the client's failure, and leaves behind a
transaction to be rolled back.  Here the same statements are put one after the other on a copy of
the database, from the beginning of the transaction to its end, and the first one that fails says
where it was: `Pair.transact`.  `Database.storePair_eq` says that storing a pair is this attempt,
and that without success the database stays as it was. -/

namespace TokenMint.Store

/-- What the failure of a statement of the transaction is reported as. -/
def PairStep.blame (step : PairStep) (f : Fault) : PairFault :=
  match step with
  | .begin => if f.isConnection then .unavailable f.text else .refreshToken f.text
  | .unlink | .dropAccess | .dropRefresh | .addRefresh => .refreshToken f.text
  | .readScopes | .addAccess | .link _ => .accessToken f.text
  | .commit => .commit (Failure.database ("Transaction commit failed: " ++ f.text)).display

namespace Pair

/-- How the transaction of a pair comes to nothing. -/
inductive Breach where
  /-- A statement fails. -/
  | failed (step : PairStep) (fault : Fault)
  /-- The refresh token to be replaced is gone. -/
  | superseded (id : Int)
deriving DecidableEq, Repr

/-- What a breach is reported as. -/
def Breach.report : Breach → PairFault
  | .failed step f => step.blame f
  | .superseded id => .superseded id

/-- Work on a copy of the database, which the first breach ends. -/
abbrev Attempt := StateT Database (Except Breach)

/-- One statement of the transaction. -/
def attempt {α : Type} (outage : PairOutage) (step : PairStep) (s : Statement α) : Attempt α :=
  fun db ↦
    match outage step with
    | some f => .error (.failed step f)
    | none => (s db).mapError (.failed step)

/-- Takes out a refresh token with its access token and the links of that. -/
def supersede (outage : PairOutage) (id : Int) : Attempt Unit := do
  let _ ← attempt outage .unlink (Database.delete .links (·.unlink id))
  let _ ← attempt outage .dropAccess
    (Database.delete .accessTokens (·.removeAccess (·.refreshTokenId = id)))
  let gone ← attempt outage .dropRefresh (Database.delete .refreshTokens (·.removeRefresh id))
  if gone = 0 then throw (.superseded id)

/-- Makes room for a pair. -/
def retire (outage : PairOutage) : Option Int → Attempt Unit
  | none => pure ()
  | some id => supersede outage id

/-- Links an access token to scopes. -/
def attach (outage : PairOutage) (accessTokenId : Int) : Nat → List Scope → Attempt Unit
  | _, [] => pure ()
  | k, s :: ss => do
    attempt outage (.link k) (Database.insertLink accessTokenId s.id)
    attach outage accessTokenId (k + 1) ss

/-- Puts the two tokens in, and what links them to the default scopes. -/
def install (outage : PairOutage) (pair : NewPair) : Attempt IssuedPair := do
  let refreshTokenId ← attempt outage .addRefresh
    (Database.insertRefresh pair.refreshToken (.instant pair.refreshExpiresAt))
  let scopes ← attempt outage .readScopes (reading Database.defaultScopes)
  let accessTokenId ← attempt outage .addAccess
    (Database.insertAccess pair.accessToken (.instant pair.accessExpiresAt)
      pair.owner.clientId? pair.owner.userId? refreshTokenId)
  attach outage accessTokenId 0 scopes
  return { accessTokenId, refreshTokenId, scopes }

/-- Puts a pair in the place of what it replaces. -/
def exchange (outage : PairOutage) (pair : NewPair) : Attempt IssuedPair := do
  retire outage pair.supersedes
  install outage pair

/-- The whole transaction. -/
def transact (outage : PairOutage) (pair : NewPair) : Attempt IssuedPair := do
  attempt outage .begin (reading Database.health)
  let issued ← exchange outage pair
  attempt outage .commit fun db ↦ .ok ((), db)
  return issued

/-! ## An attempt in place of the work -/

/-- What the work does, the attempt does: both succeed with the same result and the same copy, or
both fail for the same reason. -/
def Performs {α : Type} (w : Work α) (a : Attempt α) : Prop :=
  ∀ before db,
    match a db with
    | .ok (x, db') => w.run ⟨before, some db⟩ = (.ok x, ⟨before, some db'⟩)
    | .error b => ∃ t : Transaction,
        w.run ⟨before, some db⟩ = (.error b.report, t) ∧ t.before = before

namespace Performs

variable {α β : Type}

theorem pure (x : α) : Performs (Pure.pure x) (Pure.pure x) := fun _ _ ↦ rfl

theorem throw (b : Breach) : Performs (throw b.report : Work α) (throw b : Attempt α) :=
  fun before db ↦ ⟨⟨before, some db⟩, rfl, rfl⟩

theorem bind {w : Work α} {a : Attempt α} {f : α → Work β} {g : α → Attempt β}
    (h : Performs w a) (hf : ∀ x, Performs (f x) (g x)) : Performs (w >>= f) (a >>= g) := by
  intro before db
  have hw := h before db
  have hrun : (w >>= f).run ⟨before, some db⟩ =
      ExceptT.bindCont f (w.run ⟨before, some db⟩).1 (w.run ⟨before, some db⟩).2 := rfl
  cases ha : a db with
  | error b =>
    rw [ha] at hw
    obtain ⟨t, ht, hb⟩ := hw
    have hag : (a >>= g) db = .error b := by simp [Bind.bind, StateT.bind, ha, Except.bind]
    rw [hag]
    exact ⟨t, by rw [hrun, ht]; rfl, hb⟩
  | ok p =>
    rw [ha] at hw
    have hag : (a >>= g) db = g p.1 p.2 := by simp [Bind.bind, StateT.bind, ha, Except.bind]
    have hwf : (w >>= f).run ⟨before, some db⟩ = (f p.1).run ⟨before, some p.2⟩ := by
      rw [hrun, hw]
      rfl
    rw [hag, hwf]
    exact hf p.1 before p.2

/-- A statement whose failure the work reports as its place in the transaction has it. -/
theorem statement {outage : PairOutage} {step : PairStep} {failed : String → PairFault}
    (s : Statement α) (h : ∀ f, step.blame f = failed f.text) :
    Performs (Pair.statement outage step failed s) (attempt outage step s) := by
  intro before db
  cases ho : outage step with
  | some f =>
    have ha : attempt outage step s db = .error (.failed step f) := by simp [attempt, ho]
    rw [ha]
    refine ⟨⟨before, some db⟩, ?_, rfl⟩
    simp [Pair.statement, ho, Transaction.execute, Transaction.executor, Database.execute,
      Breach.report, h, ExceptT.run]
  | none =>
    cases hs : s db with
    | error f =>
      have ha : attempt outage step s db = .error (.failed step f) := by
        simp [attempt, ho, hs]
      rw [ha]
      refine ⟨⟨before, some db⟩, ?_, rfl⟩
      simp [Pair.statement, ho, hs, Transaction.execute, Transaction.executor, Breach.report, h,
        ExceptT.run]
    | ok p =>
      have ha : attempt outage step s db = .ok p := by simp [attempt, ho, hs]
      rw [ha]
      simp [Pair.statement, ho, hs, Transaction.execute, Transaction.executor, Database.execute,
        ExceptT.run]

end Performs

theorem performs_supersede (outage : PairOutage) (id : Int) :
    Performs (removeSuperseded outage id) (supersede outage id) := by
  refine (Performs.statement _ fun _ ↦ rfl).bind fun _ ↦ ?_
  refine (Performs.statement _ fun _ ↦ rfl).bind fun _ ↦ ?_
  refine (Performs.statement _ fun _ ↦ rfl).bind fun gone ↦ ?_
  split
  · exact .throw (.superseded id)
  · exact .pure ()

theorem performs_attach (outage : PairOutage) (accessTokenId : Int) (k : Nat) (ss : List Scope) :
    Performs (linkScopes outage accessTokenId k ss) (attach outage accessTokenId k ss) := by
  induction ss generalizing k with
  | nil => exact .pure ()
  | cons s ss ih => exact (Performs.statement _ fun _ ↦ rfl).bind fun _ ↦ ih (k + 1)

theorem performs_exchange (outage : PairOutage) (pair : NewPair) :
    Performs (work outage pair) (exchange outage pair) := by
  have hi : Performs _ (install outage pair) :=
    (Performs.statement _ fun _ ↦ rfl).bind fun refreshTokenId ↦
      (Performs.statement _ fun _ ↦ rfl).bind fun scopes ↦
        (Performs.statement _ fun _ ↦ rfl).bind fun accessTokenId ↦
          (performs_attach outage accessTokenId 0 scopes).bind fun _ ↦ .pure _
  unfold work exchange
  cases pair.supersedes with
  | none => exact (Performs.pure ()).bind fun _ ↦ hi
  | some id => exact (performs_supersede outage id).bind fun _ ↦ hi

end Pair

/-- The attempt begins when the transaction does. -/
theorem Pair.attempt_begin (outage : PairOutage) (db : Database) :
    Pair.attempt outage .begin (Pair.reading Database.health) db =
      match db.startPair outage with
      | .ok _ => .ok ((), db)
      | .error f => .error (.failed .begin f) := by
  unfold Pair.attempt Database.startPair
  cases outage .begin with
  | some f => rfl
  | none =>
    unfold Pair.reading Database.health Transaction.start
    cases db.require [] <;> rfl

theorem Database.startPair_eq_ok {db : Database} {outage : PairOutage} {t : Transaction}
    (h : db.startPair outage = .ok t) : t = ⟨db, some db⟩ := by
  unfold Database.startPair at h
  split at h
  · cases h
  · obtain ⟨_, _, h⟩ := bind_eq_ok.mp h
    cases h
    rfl

/-- Storing a pair is the attempt, and without success nothing has changed. -/
theorem Database.storePair_eq (db : Database) (outage : PairOutage) (pair : NewPair) :
    db.storePair outage pair =
      match Pair.transact outage pair db with
      | .ok (issued, db') => (.ok issued, db')
      | .error b => (.error b.report, db) := by
  have ht : Pair.transact outage pair db =
      Pair.attempt outage .begin (Pair.reading Database.health) db >>= fun p ↦
        Pair.exchange outage pair p.2 >>= fun q ↦
          Pair.attempt outage .commit (fun db ↦ .ok ((), db)) q.2 >>= fun r ↦ .ok (q.1, r.2) := rfl
  rw [ht, Pair.attempt_begin]
  unfold Database.storePair
  cases hs : db.startPair outage with
  | error f => rfl
  | ok t =>
    obtain rfl := startPair_eq_ok hs
    have hw := Pair.performs_exchange outage pair db db
    cases he : Pair.exchange outage pair db with
    | error b =>
      rw [he] at hw
      obtain ⟨t, hw, rfl⟩ := hw
      simp [hw, he, bind, Except.bind]
    | ok q =>
      rw [he] at hw
      cases ho : outage .commit with
      | none =>
        simp [hw, he, ho, bind, Except.bind, Pair.attempt, Transaction.commit]
      | some f =>
        simp [hw, he, ho, bind, Except.bind, Pair.attempt, Transaction.commit, Pair.Breach.report,
          PairStep.blame, Failure.display]

end TokenMint.Store
