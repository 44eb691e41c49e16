import TokenMint.Proofs.Store.Statement
import TokenMint.Store.Transaction

/-! # What becomes of a transaction

A transaction is used by a program that runs writes, each chosen by what came of those before, and
ends it at any point and in any way: by a commit, by a rollback, or by letting it go.  A write that
fails leaves no trace in the working copy, so that the copy is at all times what the writes that
succeeded have made of the database, one after the other; a commit puts the copy in the place of
the database, and any other end leaves the database alone.  What one use has left is what the next
one begins with: `Database.through_whole_or_nothing`. -/

namespace TokenMint.Store

/-! ## Uses of a transaction -/

/-- A statement that can run within a transaction.  It may do anything but close the database. -/
structure Write (α : Type) where
  statement : Statement α
  closed_eq : ∀ {db : Database} {a : α} {db' : Database},
    statement db = .ok (a, db') → db'.closed = db.closed

/-- To add a row is a write. -/
def Write.insert {α : Type} (t : TableName) (add : Tables → Except Fault (α × Tables)) :
    Write α where
  statement := Database.insert t add
  closed_eq h := by
    obtain ⟨-, -, tables, -, rfl⟩ := Database.insert_eq_ok.mp h
    rfl

/-- To delete rows is a write. -/
def Write.delete (t : TableName) (remove : Tables → Tables) : Write Nat where
  statement := Database.delete t remove
  closed_eq h := by
    obtain ⟨-, -, -, rfl⟩ := Database.delete_eq_ok.mp h
    rfl

/-- How a transaction is ended.  A commit may fail, and so may a rollback. -/
inductive Ending where
  | commit (fault : Option Fault)
  | rollback (fault : Option Fault)
  | leave
deriving DecidableEq, Repr

/-- What a program does with a transaction. -/
inductive Use : Type 1 where
  | write {α : Type} (w : Write α) (next : Except Fault α → Use)
  | finish (e : Ending)

/-- A write that has been run, and what came of it. -/
structure Done : Type 1 where
  {α : Type}
  write : Write α
  reply : Except Fault α

/-- A write has succeeded. -/
def Done.succeeded (d : Done) : Bool := d.reply.isOk

/-- What a use has come to. -/
structure Report : Type 1 where
  /-- The writes that have been run, in their order. -/
  done : List Done
  ending : Ending
  /-- What came of the ending, or why it was brought about. -/
  result : Except Failure Unit

/-- Ends a transaction. -/
def Ending.run (t : Transaction) : Ending → Except Failure Unit × Database
  | .commit fault => t.commit fault
  | .rollback fault => t.rollback fault
  | .leave => (.ok (), t.abandon)

/-- Uses a transaction.  Where it does not let a write run, it is let go at once. -/
def Use.run (t : Transaction) : Use → Report × Database
  | .write w next =>
    match t.execute w.statement with
    | (.error f, t) => (⟨[], .leave, .error f⟩, t.abandon)
    | (.ok r, t) =>
      let (report, db) := (next r).run t
      ({ report with done := ⟨w, r⟩ :: report.done }, db)
  | .finish e => (⟨[], e, (e.run t).1⟩, (e.run t).2)

/-- Begins a transaction and uses it. -/
def Database.through (db : Database) (u : Use) : Except Fault Report × Database :=
  match Transaction.start db with
  | .error f => (.error f, db)
  | .ok t => (.ok (u.run t).1, (u.run t).2)

/-! ## The course of a use -/

/-- `u.Course db done e db'` says that the use `u` of a transaction runs the writes `done`, ends it
by `e`, and has by then made `db'` of the working copy `db`. -/
inductive Use.Course : Use → Database → List Done → Ending → Database → Prop
  | finish (e : Ending) (db : Database) : Course (.finish e) db [] e db
  | success {α : Type} {w : Write α} {next : Except Fault α → Use} {a : α}
    {db db₁ db₂ : Database} {ds : List Done} {e : Ending} (h : w.statement db = .ok (a, db₁))
    (rest : (next (.ok a)).Course db₁ ds e db₂) :
    Course (.write w next) db (⟨w, .ok a⟩ :: ds) e db₂
  | failure {α : Type} {w : Write α} {next : Except Fault α → Use} {f : Fault}
    {db db₂ : Database} {ds : List Done} {e : Ending} (h : w.statement db = .error f)
    (rest : (next (.error f)).Course db ds e db₂) :
    Course (.write w next) db (⟨w, .error f⟩ :: ds) e db₂

/-- Some writes succeed one after the other, with the replies that they have had, and make one
database of another. -/
inductive Succeed : List Done → Database → Database → Prop
  | nil (db : Database) : Succeed [] db db
  | cons {α : Type} {w : Write α} {a : α} {db db₁ db₂ : Database} {ds : List Done}
    (h : w.statement db = .ok (a, db₁)) (rest : Succeed ds db₁ db₂) :
    Succeed (⟨w, .ok a⟩ :: ds) db db₂

namespace Succeed

variable {ds es : List Done} {db db₁ db₂ : Database}

theorem append (h : Succeed ds db db₁) (h' : Succeed es db₁ db₂) : Succeed (ds ++ es) db db₂ := by
  induction h with
  | nil => exact h'
  | cons h _ ih => exact .cons h (ih h')

theorem closed_eq (h : Succeed ds db db₁) : db₁.closed = db.closed := by
  induction h with
  | nil => rfl
  | @cons _ w _ _ _ _ _ h _ ih => exact ih.trans (w.closed_eq h)

end Succeed

namespace Use.Course

variable {u : Use} {db db' : Database} {ds : List Done} {e : Ending}

/-- The writes that failed might as well not have been run. -/
theorem succeed (h : u.Course db ds e db') : Succeed (ds.filter (·.succeeded)) db db' := by
  induction h with
  | finish e db => exact .nil db
  | success h _ ih =>
    rw [List.filter_cons_of_pos rfl]
    exact .cons h ih
  | failure h _ ih =>
    rw [List.filter_cons_of_neg Bool.false_ne_true]
    exact ih

end Use.Course

/-! ## Transactions under way -/

namespace Transaction

variable {α : Type} {before db db' : Database} {s : Statement α}

theorem execute_of_ok {a : α} (h : s db = .ok (a, db')) :
    (⟨before, some db⟩ : Transaction).execute s = (.ok (.ok a), ⟨before, some db'⟩) := by
  simp only [execute, executor, Database.execute_of_ok db h]

theorem execute_of_error {f : Fault} (h : s db = .error f) :
    (⟨before, some db⟩ : Transaction).execute s = (.ok (.error f), ⟨before, some db⟩) := by
  simp only [execute, executor, Database.execute_of_error db h]

/-- A transaction begins on the database as it is, if this is open. -/
theorem start_of_open (h : db.closed = false) : start db = .ok ⟨db, some db⟩ := by
  simp [start, Database.require, h, bind, Except.bind]
  rfl

theorem start_of_closed (h : db.closed = true) : start db = .error .closed := by
  simp [start, Database.require, h, bind, Except.bind]

end Transaction

/-- A transaction under way lets every write run, and ends as its use says. -/
theorem Use.run_eq (u : Use) (before db : Database) :
    ∃ ds e db', u.Course db ds e db' ∧
      u.run ⟨before, some db⟩ =
        (⟨ds, e, (e.run ⟨before, some db'⟩).1⟩, (e.run ⟨before, some db'⟩).2) := by
  induction u generalizing db with
  | finish e => exact ⟨[], e, db, .finish e db, rfl⟩
  | write w next ih =>
    cases hw : w.statement db with
    | ok p =>
      obtain ⟨ds, e, db', hcourse, hrun⟩ := ih (.ok p.1) p.2
      refine ⟨_, e, db', .success hw hcourse, ?_⟩
      simp only [Use.run, Transaction.execute_of_ok hw, hrun]
    | error f =>
      obtain ⟨ds, e, db', hcourse, hrun⟩ := ih (.error f) db
      refine ⟨_, e, db', .failure hw hcourse, ?_⟩
      simp only [Use.run, Transaction.execute_of_error hw, hrun]

/-! ## Ends -/

/-- What is reported of the end of a transaction under way. -/
def Ending.result : Ending → Except Failure Unit
  | .commit none | .rollback none | .leave => .ok ()
  | .commit (some f) =>
    .error ((Failure.database ("Transaction commit failed: " ++ f.text)).because f.text)
  | .rollback (some f) =>
    .error ((Failure.database ("Transaction rollback failed: " ++ f.text)).because f.text)

/-- Nothing internal is ever reported, as it is of a transaction that has ended before. -/
theorem Ending.result_ne_internal (e : Ending) (message : String) :
    e.result ≠ .error (.internal message) := by
  rcases e with (_ | f) | (_ | f) | _ <;> simp [result, Failure.because, Failure.dueTo,
    Failure.database, Failure.internal]

/-- A commit that does not fail puts the working copy in the place of the database; any other end
leaves the database as it was. -/
theorem Ending.run_snd (e : Ending) (before db : Database) :
    (e.run ⟨before, some db⟩).2 = if e = .commit none then db else before := by
  rcases e with (_ | f) | (_ | f) | _ <;> rfl

/-- Nothing goes wrong at the end of a transaction under way but the commit or the rollback. -/
theorem Ending.run_fst (e : Ending) (before db : Database) :
    (e.run ⟨before, some db⟩).1 = e.result := by
  rcases e with (_ | f) | (_ | f) | _ <;> rfl

/-! ## One use after another -/

/-- The writes that have come to stay. -/
def Report.kept (r : Report) : List Done :=
  if r.ending = .commit none then r.done.filter (·.succeeded) else []

namespace Database

variable {db : Database}

theorem through_of_closed (h : db.closed = true) (u : Use) :
    db.through u = (.error .closed, db) := by
  simp only [through, Transaction.start_of_closed h]

/-- What a use of an open database comes to. -/
theorem through_of_open (h : db.closed = false) (u : Use) :
    ∃ report copy db', db.through u = (.ok report, db') ∧
      u.Course db report.done report.ending copy ∧
      db' = (if report.ending = .commit none then copy else db) ∧
      report.result = report.ending.result := by
  obtain ⟨ds, e, copy, hcourse, hrun⟩ := u.run_eq db db
  refine ⟨⟨ds, e, (e.run ⟨db, some copy⟩).1⟩, copy, (e.run ⟨db, some copy⟩).2, ?_, hcourse,
    e.run_snd db copy, e.run_fst db copy⟩
  simp only [through, Transaction.start_of_open h, hrun]

/-- What has come to stay is all that has changed. -/
theorem succeed_through (h : db.closed = false) (u : Use) :
    ∃ report db', db.through u = (.ok report, db') ∧ Succeed report.kept db db' := by
  obtain ⟨report, copy, db', hthrough, hcourse, rfl, -⟩ := through_of_open h u
  refine ⟨report, _, hthrough, ?_⟩
  unfold Report.kept
  split
  · exact hcourse.succeed
  · exact .nil db

/-- Uses the database through one transaction after another. -/
def throughAll (db : Database) : List Use → List (Except Fault Report) × Database
  | [] => ([], db)
  | u :: us =>
    let (r, db) := db.through u
    let (rs, db) := db.throughAll us
    (r :: rs, db)

theorem succeed_throughAll (h : db.closed = false) (us : List Use) :
    ∃ (reports : List Report) (db' : Database), db.throughAll us = (reports.map .ok, db') ∧
      reports.length = us.length ∧ Succeed (reports.flatMap Report.kept) db db' := by
  induction us generalizing db with
  | nil => exact ⟨[], db, rfl, rfl, .nil db⟩
  | cons u us ih =>
    obtain ⟨report, db₁, hthrough, hfirst⟩ := succeed_through h u
    obtain ⟨reports, db', hall, hlength, hrest⟩ := ih (hfirst.closed_eq.trans h)
    refine ⟨report :: reports, db', ?_, congrArg (· + 1) hlength, ?_⟩
    · simp only [throughAll, hthrough, hall, List.map_cons]
    · rw [List.flatMap_cons]
      exact hfirst.append hrest

/-- A transaction comes to everything that it has done or to nothing.  None begins on a closed
database.  On an open one every use runs its course: if it ends with a commit, the database is what
the writes that succeeded make of it when they alone are run, with the same replies; if it ends in
any other way, be it a commit that fails or a rollback that does, the database is as it was, with
all that its tables have counted.  What is reported is how the commit or the rollback went, and
never that the transaction has been consumed.  The next transaction begins with what the last one
has left, so that any number of uses one after the other come to the writes that were kept. -/
theorem through_whole_or_nothing (db : Database) :
    (db.closed = true → ∀ u, db.through u = (.error .closed, db)) ∧
    (db.closed = false → ∀ u, ∃ report copy db', db.through u = (.ok report, db') ∧
      u.Course db report.done report.ending copy ∧
      (report.ending = .commit none →
        db' = copy ∧ Succeed (report.done.filter (·.succeeded)) db db') ∧
      (report.ending ≠ .commit none → db' = db) ∧
      report.result = report.ending.result ∧
      (∀ message, report.result ≠ .error (.internal message)) ∧
      Transaction.start db' = .ok ⟨db', some db'⟩) ∧
    (db.closed = false → ∀ us, ∃ (reports : List Report) (db' : Database),
      db.throughAll us = (reports.map .ok, db') ∧ reports.length = us.length ∧
        Succeed (reports.flatMap Report.kept) db db') := by
  refine ⟨through_of_closed, fun h u ↦ ?_, succeed_throughAll⟩
  obtain ⟨report, copy, db', hthrough, hcourse, rfl, hresult⟩ := through_of_open h u
  have hopen : copy.closed = false := hcourse.succeed.closed_eq.trans h
  refine ⟨report, copy, _, hthrough, hcourse, fun he ↦ ?_, fun he ↦ if_neg he, hresult, ?_, ?_⟩
  · rw [if_pos he]
    exact ⟨rfl, hcourse.succeed⟩
  · rw [hresult]
    exact report.ending.result_ne_internal
  · split
    · exact Transaction.start_of_open hopen
    · exact Transaction.start_of_open h

/-- A database with one user. -/
def withUser (username : String) : Database where
  tables := { users := { rows := [⟨1, username, username⟩], last := 1 } }

/-- Two users and a scope are added and a user is deleted, whatever comes of each. -/
def enrolling (username username' scope : String) (e : Ending) : Use :=
  .write (.insert .users (·.addUser username username)) fun _ ↦
    .write (.insert .users (·.addUser username' username')) fun _ ↦
      .write (.insert .scopes (·.addScope scope true)) fun _ ↦
        .write (.delete .users (·.remove .users 1)) fun _ ↦ .finish e

/-- A user whose name is taken is left out of what is committed, and takes no number; what is let
go leaves no trace, and neither does what could not be rolled back. -/
theorem through_whole_or_nothing_namesake :
    let db := withUser "ann"
    db.closed = false ∧
    (∃ report db', db.through (enrolling "ann" "bob" "read" (.commit none)) = (.ok report, db') ∧
      report.ending = .commit none ∧ report.done.length = 4 ∧
      (report.done.filter (·.succeeded)).length = 3 ∧
      Succeed (report.done.filter (·.succeeded)) db db' ∧
      db'.tables.users = ⟨[⟨2, "bob", "bob"⟩], 2⟩ ∧
      db'.tables.scopes = ⟨[⟨1, "read", true⟩], 1⟩) ∧
    (∃ report, db.through (enrolling "ann" "bob" "read" .leave) = (.ok report, db) ∧
      report.ending = .leave) ∧
    ∃ report, db.through (enrolling "ann" "bob" "read" (.rollback (some .closed))) =
        (.ok report, db) ∧
      report.result = .error ((Failure.database
        "Transaction rollback failed: attempted to acquire a connection on a closed pool").because
        "attempted to acquire a connection on a closed pool") := by
  intro db
  have hopen : db.closed = false := rfl
  obtain ⟨-, huse, -⟩ := through_whole_or_nothing db
  refine ⟨hopen, ?_, ?_, ?_⟩
  · obtain ⟨report, copy, db', hthrough, -, hcommit, -⟩ :=
      huse hopen (enrolling "ann" "bob" "read" (.commit none))
    cases hthrough
    exact ⟨_, _, rfl, rfl, rfl, rfl, (hcommit rfl).2, by decide +kernel, by decide +kernel⟩
  · obtain ⟨report, copy, db', hthrough, -⟩ := huse hopen (enrolling "ann" "bob" "read" .leave)
    cases hthrough
    exact ⟨_, rfl, rfl⟩
  · obtain ⟨report, copy, db', hthrough, -, -, -, hresult, -⟩ :=
      huse hopen (enrolling "ann" "bob" "read" (.rollback (some .closed)))
    cases hthrough
    exact ⟨_, rfl, hresult⟩

end Database

end TokenMint.Store
