import TokenMint.Proofs.Grant.Issue
import TokenMint.Proofs.Store.Exchange

/-! # A pair is stored whole or not at all

Wherever the transaction of a pair fails, and for whatever reason, the store is as it was before,
and the failure that the client sees names the step.  An outage hits the first statement that it
can: `Pair.transact_of_outage` says so of every pair that could be stored without one. -/

namespace TokenMint.Store

/-! ## The first statement that an outage hits -/

/-- The first of some statements that fails for reasons outside the database, and how. -/
def PairOutage.first? (outage : PairOutage) (steps : List PairStep) : Option (PairStep × Fault) :=
  steps.findSome? fun step ↦ (outage step).map (step, ·)

namespace Pair

variable {α β : Type}

/-- An attempt that runs these statements and succeeds, unless an outage hits one of them. -/
def Runs (a : PairOutage → Attempt α) (db : Database) (p : α × Database) (steps : List PairStep) :
    Prop :=
  ∀ outage, a outage db =
    match outage.first? steps with
    | some (step, f) => .error (.failed step f)
    | none => .ok p

namespace Runs

theorem pure (x : α) (db : Database) : Runs (fun _ ↦ Pure.pure x) db (x, db) [] := fun _ ↦ rfl

theorem attempt {step : PairStep} {s : Statement α} {db : Database} {p : α × Database}
    (h : s db = .ok p) : Runs (fun outage ↦ Pair.attempt outage step s) db p [step] := by
  intro outage
  cases ho : outage step <;> simp [Pair.attempt, PairOutage.first?, ho, h]

theorem bind {a : PairOutage → Attempt α} {g : PairOutage → α → Attempt β} {db : Database}
    {p : α × Database} {q : β × Database} {l₁ l₂ : List PairStep} (h : Runs a db p l₁)
    (hg : Runs (g · p.1) p.2 q l₂) : Runs (fun outage ↦ a outage >>= g outage) db q (l₁ ++ l₂) := by
  intro outage
  have happ : outage.first? (l₁ ++ l₂) = (outage.first? l₁).or (outage.first? l₂) :=
    List.findSome?_append
  change (a outage db >>= fun p ↦ g outage p.1 p.2) = _
  rw [h outage, happ]
  cases outage.first? l₁ with
  | none => exact hg outage
  | some f => rfl

end Runs

variable {pair : NewPair} {db db' : Database}

theorem runs_attach {accessTokenId : Int} {k : Nat} {ss : List Scope}
    (h : attach .none accessTokenId k ss db = .ok ((), db')) :
    Runs (attach · accessTokenId k ss) db ((), db') ((List.range' k ss.length).map .link) := by
  induction ss generalizing k db with
  | nil =>
    cases h
    exact .pure () _
  | cons s ss ih =>
    obtain ⟨_, db₁, h₁, h⟩ := attempt_bind_eq_ok.mp h
    exact (Runs.attempt (attempt_eq_ok.mp h₁).2).bind (ih h)

theorem runs_supersede {id : Int} (h : supersede .none id db = .ok ((), db')) :
    Runs (supersede · id) db ((), db') [.unlink, .dropAccess, .dropRefresh] := by
  obtain ⟨_, db₁, h₁, h⟩ := attempt_bind_eq_ok.mp h
  obtain ⟨_, db₂, h₂, h⟩ := attempt_bind_eq_ok.mp h
  obtain ⟨gone, db₃, h₃, h⟩ := attempt_bind_eq_ok.mp h
  refine (Runs.attempt (attempt_eq_ok.mp h₁).2).bind ?_
  refine (Runs.attempt (attempt_eq_ok.mp h₂).2).bind ?_
  change Runs _ _ _ ([.dropRefresh] ++ [])
  refine (Runs.attempt (attempt_eq_ok.mp h₃).2).bind ?_
  intro outage
  by_cases hg : gone = 0
  · rw [if_pos hg] at h
    cases h
  · rw [if_neg hg] at h
    cases h
    simp only [hg]
    rfl

theorem runs_retire {supersedes : Option Int} (h : retire .none supersedes db = .ok ((), db')) :
    Runs (retire · supersedes) db ((), db')
      (if supersedes.isSome then [.unlink, .dropAccess, .dropRefresh] else []) := by
  cases supersedes with
  | none =>
    cases h
    exact .pure () _
  | some id => exact runs_supersede h

theorem runs_install {issued : IssuedPair} (h : install .none pair db = .ok (issued, db')) :
    Runs (install · pair) db (issued, db')
      ([.addRefresh, .readScopes, .addAccess] ++
        (List.range db.tables.defaultScopes.length).map .link) := by
  obtain ⟨_, _, _, hi, _⟩ := install_eq_ok h
  obtain ⟨_, db₁, h₁, h⟩ := attempt_bind_eq_ok.mp h
  obtain ⟨scopes, db₂, h₂, h⟩ := attempt_bind_eq_ok.mp h
  obtain ⟨_, db₃, h₃, h⟩ := attempt_bind_eq_ok.mp h
  obtain ⟨_, db₄, h₄, h⟩ := attempt_bind_eq_ok.mp h
  cases h
  obtain rfl : scopes = db.tables.defaultScopes := congrArg IssuedPair.scopes hi
  rw [List.range_eq_range', ← List.append_nil (List.map _ _)]
  refine (Runs.attempt (attempt_eq_ok.mp h₁).2).bind ?_
  refine (Runs.attempt (attempt_eq_ok.mp h₂).2).bind ?_
  refine (Runs.attempt (attempt_eq_ok.mp h₃).2).bind ?_
  exact (runs_attach h₄).bind (.pure _ _)

/-- If a pair can be stored when there is no outage, any outage hits the first statement that it
can, and the transaction comes to nothing there. -/
theorem transact_of_outage {issued : IssuedPair} (h : transact .none pair db = .ok (issued, db')) :
    Runs (transact · pair) db (issued, db') (steps pair db.tables) := by
  obtain ⟨_, db₁, h₁, h⟩ := attempt_bind_eq_ok.mp h
  obtain ⟨_, db₂, h₂, h⟩ := attempt_bind_eq_ok.mp h
  obtain ⟨_, db₃, h₃, h⟩ := attempt_bind_eq_ok.mp h
  obtain ⟨_, db₄, h₄, h₅⟩ := attempt_bind_eq_ok.mp h₂
  cases h
  obtain ⟨_, rfl⟩ := reading_eq_ok.mp (attempt_eq_ok.mp h₁).2
  obtain ⟨_, rfl⟩ := retire_eq_ok h₄
  have hd : (db₁.tables.without pair.supersedes).defaultScopes = db₁.tables.defaultScopes := by
    cases pair.supersedes <;> rfl
  have hx : Runs (exchange · pair) db₁ (issued, db₂) _ := (runs_retire h₄).bind (runs_install h₅)
  have hs : steps pair db₁.tables =
      [.begin] ++ ((if pair.supersedes.isSome then [.unlink, .dropAccess, .dropRefresh] else []) ++
        ([.addRefresh, .readScopes, .addAccess] ++
          (List.range (db₁.tables.without pair.supersedes).defaultScopes.length).map .link) ++
            ([.commit] ++ [])) := by
    simp [steps, hd]
  rw [hs]
  refine (Runs.attempt (attempt_eq_ok.mp h₁).2).bind ?_
  refine hx.bind ?_
  exact (Runs.attempt (attempt_eq_ok.mp h₃).2).bind (.pure issued _)

/-! ## Whole or not at all -/

/-- A statement of the transaction fails, after those before it have succeeded. -/
def FailsAt (outage : PairOutage) (pair : NewPair) (db : Database) (step : PairStep) (f : Fault) :
    Prop :=
  transact outage pair db = .error (.failed step f)

theorem FailsAt.storePair {outage : PairOutage} {step : PairStep} {f : Fault}
    (h : FailsAt outage pair db step f) :
    db.storePair outage pair = (.error (step.blame f), db) := by
  rw [Database.storePair_eq, show transact outage pair db = .error (.failed step f) from h]
  rfl

/-- Where the first hit of an outage lies, there the transaction fails, if nothing else stands
against the pair. -/
theorem failsAt_of_first? {outage : PairOutage} {step : PairStep} {f : Fault}
    (hok : (db.storePair .none pair).1.isOk)
    (hf : outage.first? (steps pair db.tables) = some (step, f)) :
    FailsAt outage pair db step f := by
  rw [Database.storePair_eq] at hok
  cases ht : transact .none pair db with
  | error b => simp [ht, Except.isOk, Except.toBool] at hok
  | ok p =>
    have := transact_of_outage ht outage
    rwa [hf] at this

end Pair

/-- A pair that is not stored changes nothing: a statement has failed, or the refresh token to be
replaced is gone. -/
theorem Database.storePair_eq_error {db db' : Database} {outage : PairOutage} {pair : NewPair}
    {e : PairFault} (h : db.storePair outage pair = (.error e, db')) :
    db' = db ∧ ((∃ step f, Pair.FailsAt outage pair db step f ∧ e = step.blame f) ∨
      ∃ id, e = .superseded id) := by
  rw [storePair_eq] at h
  split at h
  · cases h
  · rename_i b ht
    cases h
    cases b with
    | failed step f => exact ⟨rfl, .inl ⟨step, f, ht, rfl⟩⟩
    | superseded id => exact ⟨rfl, .inr ⟨id, rfl⟩⟩

/-- A statement of the transaction that cannot be run leaves no pair behind. -/
theorem Database.storePair_of_outage {db : Database} {outage : PairOutage} {pair : NewPair}
    {step : PairStep} (hs : step ∈ Pair.steps pair db.tables) (ho : outage step ≠ none) :
    ∃ e, db.storePair outage pair = (.error e, db) := by
  cases h : db.storePair outage pair with
  | mk r db' =>
    cases r with
    | ok issued => exact absurd ((storePair_eq_ok h).1 step hs) ho
    | error e => exact ⟨e, by rw [(storePair_eq_error h).1]⟩

/-- What the client reads when a statement of the transaction has failed. -/
theorem PairStep.message_blame (step : PairStep) (f : Fault) :
    (step.blame f).report.message =
      if step = .begin ∧ f.isConnection then "Error connecting to database"
      else if step ∈ [.begin, .unlink, .dropAccess, .dropRefresh, .addRefresh] then
        "Error saving refresh token"
      else "Error saving access token" := by
  cases step with
  | begin => cases hc : f.isConnection <;> simp [blame, hc, PairFault.failure, Failure.unavailable,
      Failure.database]
  | _ => simp [blame, PairFault.failure, Failure.database]

theorem PairStep.status_blame (step : PairStep) (f : Fault) :
    (step.blame f).report.status = 500 := by
  cases step with
  | begin => cases hc : f.isConnection <;> simp [blame, hc] <;> rfl
  | _ => rfl

end TokenMint.Store

namespace TokenMint.Service

open Store Store.Pair

/-- Issuing is all or nothing.  Storing a pair fails if any statement of the transaction does, by an
outage or by itself, and any failure leaves the whole database as it was.  Whoever asked for the
pair is told the kind of the statement that failed. -/
theorem issue_all_or_nothing (env : Surroundings) (lifetimes : Lifetimes) (o : Outage)
    (s : Service) :
    (∀ pair, ∀ step ∈ steps pair s.database.tables, o.pair step ≠ none →
      ∃ e, s.database.storePair o.pair pair = (.error e, s.database)) ∧
    (∀ pair step f, FailsAt o.pair pair s.database step f →
      s.database.storePair o.pair pair = (.error (step.blame f), s.database)) ∧
    (∀ pair step f, (s.database.storePair .none pair).1.isOk →
      o.pair.first? (steps pair s.database.tables) = some (step, f) →
        FailsAt o.pair pair s.database step f) ∧
    (∀ pair e database, s.database.storePair o.pair pair = (.error e, database) →
      database = s.database ∧
        ((∃ step f, FailsAt o.pair pair s.database step f ∧ e = step.blame f) ∨
          ∃ id, e = .superseded id)) ∧
    ∀ owner supersedes step f,
      FailsAt o.pair (s.drawnPair env lifetimes owner supersedes) s.database step f →
      ∃ failure s',
        (Endpoint.issue lifetimes owner supersedes).run (answer env o) s = (.error failure, s') ∧
        s'.database = s.database ∧ failure.status = 500 ∧
        failure.message =
          if step = .begin ∧ f.isConnection then "Error connecting to database"
          else if step ∈ [.begin, .unlink, .dropAccess, .dropRefresh, .addRefresh] then
            "Error saving refresh token"
          else "Error saving access token" := by
  refine ⟨fun pair step hs ho ↦ Database.storePair_of_outage hs ho, fun pair step f h ↦ h.storePair,
    fun pair step f hok hf ↦ failsAt_of_first? hok hf,
    fun pair e database h ↦ Database.storePair_eq_error h, ?_⟩
  intro owner supersedes step f h
  refine ⟨(step.blame f).report, { s with readings := s.readings + 1, drawn := s.drawn + 2 }, ?_,
    rfl, step.status_blame f, step.message_blame f⟩
  rw [run_issue]
  simp only [h.storePair]
  rfl

/-- A service with one user, who holds one pair with one scope. -/
def holding (user scope refresh access : String) : Service where
  database := {
    tables := {
      users := { rows := [⟨1, user, user⟩], last := 1 }
      scopes := { rows := [⟨1, scope, true⟩], last := 1 }
      refreshTokens := { rows := [⟨1, refresh, .instant ⟨9, 0⟩⟩], last := 1 }
      accessTokens := { rows := [⟨1, access, .instant ⟨9, 0⟩, none, some 1, 1⟩], last := 1 }
      links := [⟨1, 1⟩] } }

/-- The pair of a user is rotated, and the last thing but one goes wrong. -/
theorem issue_all_or_nothing_link :
    let s := holding "ann" "read" "old" "older"
    let o : Outage := { pair := fun step ↦ if step = .link 0 then some .unique else none }
    let pair := s.drawnPair .counting ⟨60, 3600⟩ (.user 1) (some 1)
    (s.database.storePair .none pair).1.isOk ∧
      s.database.storePair o.pair pair = (.error (.accessToken Fault.unique.text), s.database) ∧
      ∃ failure s',
        (Endpoint.issue ⟨60, 3600⟩ (.user 1) (some 1)).run (answer .counting o) s =
          (.error failure, s') ∧
        s'.database = s.database ∧ failure.message = "Error saving access token" := by
  intro s o pair
  obtain ⟨-, hstore, hfirst, -, hissue⟩ := issue_all_or_nothing .counting ⟨60, 3600⟩ o s
  have hok : (s.database.storePair .none pair).1.isOk := by decide +kernel
  have hf : FailsAt o.pair pair s.database (.link 0) .unique :=
    hfirst pair _ _ hok (by decide +kernel)
  obtain ⟨failure, s', hrun, hdb, -, hmsg⟩ := hissue (.user 1) (some 1) _ _ hf
  exact ⟨hok, hstore pair _ _ hf, failure, s', hrun, hdb, hmsg⟩

end TokenMint.Service
