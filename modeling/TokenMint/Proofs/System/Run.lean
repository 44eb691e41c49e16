import Mathlib.Data.List.Induction
import TokenMint.Proofs.Store.Integrity
import TokenMint.Proofs.Store.Rollback
import TokenMint.System

/-! # Runs of the system

What the empty system has and every event keeps, the system has after any run.  An event writes at
most one line to the log, and this line tells what has become of the tables: `Entry.Tells`.  So
what holds of the tables however they are changed holds of them after any run. -/

namespace TokenMint

open Store (Database Fault TableName Tables)

namespace System

variable {env : Surroundings} {lifetimes : Lifetimes}

theorem resume_cons (σ : System) (e : Event) (events : List Event) :
    σ.resume env lifetimes (e :: events) = (σ.step env lifetimes e).resume env lifetimes events :=
  rfl

theorem resume_concat (σ : System) (events : List Event) (e : Event) :
    σ.resume env lifetimes (events ++ [e]) = (σ.resume env lifetimes events).step env lifetimes e :=
  List.foldl_concat ..

theorem run_append (events more : List Event) :
    run env lifetimes (events ++ more) = (run env lifetimes events).resume env lifetimes more :=
  List.foldl_append

theorem run_concat (events : List Event) (e : Event) :
    run env lifetimes (events ++ [e]) = (run env lifetimes events).step env lifetimes e :=
  List.foldl_concat ..

/-- A request that asks takes one turn; one that is not there or is done changes nothing. -/
theorem step_ask (σ : System) (i : Nat) (o : Outage) :
    σ.step env lifetimes (.ask i o) = σ ∨
    ∃ basic request c next, σ.threads[i]? = some ⟨basic, request, .ask c next⟩ ∧
      σ.step env lifetimes (.ask i o) =
        { service := (σ.service.answer env o c).2
          threads := σ.threads.set i ⟨basic, request, next (σ.service.answer env o c).1⟩
          log := σ.log ++ [.turn i ⟨c, (σ.service.answer env o c).1⟩] } := by
  cases h : σ.threads[i]? with
  | none => exact .inl (by simp [step, h])
  | some th =>
    obtain ⟨basic, request, rest⟩ := th
    cases rest with
    | done a => exact .inl (by simp [step, h])
    | ask c next =>
      refine .inr ⟨basic, request, c, next, rfl, ?_⟩
      simp only [step, h]
      rfl

/-- What holds to begin with, and is kept by events of a kind, holds after any number of these. -/
theorem resume_induction {P : System → Prop} {A : Event → Prop} {σ : System} (start : P σ)
    (step : ∀ σ e, A e → P σ → P (σ.step env lifetimes e)) (events : List Event)
    (h : ∀ e ∈ events, A e) : P (σ.resume env lifetimes events) := by
  induction events using List.reverseRecOn with
  | nil => exact start
  | append_singleton events e ih =>
    rw [resume_concat]
    exact step _ e (h e (by simp)) (ih fun e he ↦ h e (List.mem_append_left _ he))

/-- What holds of the empty system, and is kept by events of a kind, holds after any run of
these. -/
theorem run_induction {P : System → Prop} {A : Event → Prop} (empty : P {})
    (step : ∀ σ e, A e → P σ → P (σ.step env lifetimes e)) (events : List Event)
    (h : ∀ e ∈ events, A e) : P (run env lifetimes events) :=
  resume_induction empty step events h

end System

/-! ## What happens to the tables -/

theorem filterMap_concat {α β : Type} (f : α → Option β) (l : List α) (a : α) :
    (l ++ [a]).filterMap f = l.filterMap f ++ (f a).toList := by
  cases h : f a <;> simp [h]

/-- The pair that a line of the log has put into the store. -/
def Entry.stored? : Entry → Option (NewPair × IssuedPair)
  | .turn _ ⟨.storePair pair, r⟩ => r.toOption.map (pair, ·)
  | .act (.storePair pair) r => r.toOption.map (pair, ·)
  | _ => none

/-- The row that administrators have taken out by a line of the log, if there was one to take. -/
def Entry.deleted? : Entry → Option (TableName × Int)
  | .act (.delete n id) (.ok (_ + 1)) => some (n, id)
  | _ => none

/-- The pairs that have been put into the store, the last one last. -/
def System.stored (σ : System) : List (NewPair × IssuedPair) := σ.log.filterMap Entry.stored?

/-- What a line of the log tells of the tables before and after it. -/
inductive Entry.Tells : Entry → Tables → Tables → Prop
  | idle {x : Entry} (t : Tables) (hs : x.stored? = none) (hd : x.deleted? = none) : Tells x t t
  | addUser {t t' : Tables} {username hash : String} {id : Int}
    (h : t.addUser username hash = .ok (id, t')) :
    Tells (.act (.createUser username hash) (.ok id)) t t'
  | addClient {t t' : Tables} {clientId hash : String} {id : Int}
    (h : t.addClient clientId hash = .ok (id, t')) :
    Tells (.act (.createClient clientId hash) (.ok id)) t t'
  | addScope {t t' : Tables} {name : String} {isDefault : Bool} {id : Int}
    (h : t.addScope name isDefault = .ok (id, t')) :
    Tells (.act (.createScope name isDefault) (.ok id)) t t'
  | remove (t : Tables) (n : TableName) (id : Int) :
    Tells (.act (.delete n id) (.ok (t.count n - (t.remove n id).count n))) t (t.remove n id)
  | store {x : Entry} {t t' : Tables} {pair : NewPair} {issued : IssuedPair}
    (hx : x.stored? = some (pair, issued)) (h : t.Stores pair issued t') : Tells x t t'

/-- A line of the log tells of one move. -/
theorem Entry.Tells.moves {x : Entry} {t t' : Tables} (h : x.Tells t t') :
    t.Moves x.stored? t' := by
  cases h with
  | idle t hs =>
    rw [hs]
    exact .stay t
  | addUser h => exact .addUser h
  | addClient h => exact .addClient h
  | addScope h => exact .addScope h
  | remove t n id => exact .remove t n id
  | store hx h =>
    rw [hx]
    exact .store h

/-- A line that has put a pair in tells how. -/
theorem Entry.Tells.stores {x : Entry} {t t' : Tables} {p : NewPair × IssuedPair}
    (h : x.Tells t t') (hp : x.stored? = some p) : t.Stores p.1 p.2 t' := by
  cases h with
  | store hx h =>
    rw [hp] at hx
    cases hx
    exact h
  | idle t hs =>
    rw [hp] at hs
    cases hs
  | _ => cases hp

/-- To obtain the placeholder changes nothing else. -/
theorem Service.obtainPlaceholder_eq (env : Surroundings) (s : Service) :
    (s.obtainPlaceholder env).2 =
      { s with placeholder := (s.obtainPlaceholder env).2.placeholder } := by
  unfold obtainPlaceholder
  split
  · rfl
  · split <;> rfl

theorem Service.obtainPlaceholder_database (env : Surroundings) (s : Service) :
    (s.obtainPlaceholder env).2.database = s.database := by
  rw [obtainPlaceholder_eq]

/-- A pair has been stored, or nothing has changed. -/
theorem Store.Database.storePair_cases (db : Database) (o : Store.PairOutage) (pair : NewPair) :
    (∃ issued t', db.storePair o pair = (.ok issued, { db with tables := t' }) ∧
      db.tables.Stores pair issued t') ∨ ∃ e, db.storePair o pair = (.error e, db) := by
  cases h : db.storePair o pair with | mk r db' =>
  cases r with
  | ok issued =>
    obtain ⟨-, t', hs, rfl⟩ := storePair_eq_ok h
    exact .inl ⟨issued, t', rfl, hs⟩
  | error e =>
    obtain ⟨rfl, -⟩ := storePair_eq_error h
    exact .inr ⟨e, rfl⟩

/-- Of all that a request asks, only storing a pair changes the tables. -/
theorem Service.answer_tells (env : Surroundings) (o : Outage) (i : Nat) (c : Call) (s : Service) :
    (Entry.turn i ⟨c, (s.answer env o c).1⟩).Tells s.database.tables
      (s.answer env o c).2.database.tables := by
  cases c with
  | storePair pair =>
    change (Entry.turn i ⟨.storePair pair, (s.database.storePair o.pair pair).1⟩).Tells _
      (s.database.storePair o.pair pair).2.tables
    rcases s.database.storePair_cases o.pair pair with ⟨issued, t', h, hs⟩ | ⟨e, h⟩
    · rw [h]
      exact .store rfl hs
    · rw [h]
      exact .idle _ rfl rfl
  | placeholder =>
    change (Entry.turn i ⟨.placeholder, (s.obtainPlaceholder env).1⟩).Tells _
      (s.obtainPlaceholder env).2.database.tables
    rw [obtainPlaceholder_database]
    exact .idle _ rfl rfl
  | _ => exact .idle _ rfl rfl

/-- What comes of a statement: an outage hits it, it fails, or it succeeds. -/
theorem Outage.spare_execute {α β : Type} {o : Outage} {db : Database} {s : Store.Statement α}
    {hit : Fault → β} {g : Except Fault α → β} {P : β × Database → Prop}
    (hhit : ∀ f, P (hit f, db)) (herror : ∀ f, P (g (.error f), db))
    (hok : ∀ a db', s db = .ok (a, db') → P (g (.ok a), db')) :
    P (o.spare (fun f ↦ (hit f, db)) (g (db.execute s).1, (db.execute s).2)) := by
  unfold spare
  split
  · exact hhit _
  · cases hs : s db with
    | error f =>
      rw [Database.execute_of_error db hs]
      exact herror f
    | ok p =>
      rw [Database.execute_of_ok db hs]
      exact hok p.1 p.2 hs

/-- Administrators add rows, delete them, and store pairs. -/
theorem Act.run_tells (o : Outage) (db : Database) (a : Act) :
    (Entry.act a (a.run o db).1).Tells db.tables (a.run o db).2.tables := by
  cases a with
  | createUser username hash =>
    refine Outage.spare_execute (P := fun p ↦ (Entry.act (.createUser ..) p.1).Tells _ p.2.tables)
      (fun _ ↦ .idle _ rfl rfl) (fun _ ↦ .idle _ rfl rfl) fun id db' h ↦ ?_
    obtain ⟨-, -, t, ht, rfl⟩ := Database.insert_eq_ok.mp h
    exact .addUser ht
  | createClient clientId hash =>
    refine Outage.spare_execute (P := fun p ↦ (Entry.act (.createClient ..) p.1).Tells _ p.2.tables)
      (fun _ ↦ .idle _ rfl rfl) (fun _ ↦ .idle _ rfl rfl) fun id db' h ↦ ?_
    obtain ⟨-, -, t, ht, rfl⟩ := Database.insert_eq_ok.mp h
    exact .addClient ht
  | createScope name isDefault =>
    refine Outage.spare_execute (P := fun p ↦ (Entry.act (.createScope ..) p.1).Tells _ p.2.tables)
      (fun _ ↦ .idle _ rfl rfl) (fun _ ↦ .idle _ rfl rfl) fun id db' h ↦ ?_
    obtain ⟨-, -, t, ht, rfl⟩ := Database.insert_eq_ok.mp h
    exact .addScope ht
  | delete n id =>
    refine Outage.spare_execute (g := fun r ↦ r)
      (P := fun p ↦ (Entry.act (.delete n id) p.1).Tells _ p.2.tables)
      (fun _ ↦ .idle _ rfl rfl) (fun _ ↦ .idle _ rfl rfl) fun k db' h ↦ ?_
    obtain ⟨rfl, rfl⟩ := Database.deleteRow_eq_ok h
    exact .remove _ n id
  | storePair pair =>
    change (Entry.act (.storePair pair) (db.storePair o.pair pair).1).Tells _
      (db.storePair o.pair pair).2.tables
    rcases db.storePair_cases o.pair pair with ⟨issued, t', h, hs⟩ | ⟨e, h⟩
    · rw [h]
      exact .store rfl hs
    · rw [h]
      exact .idle _ rfl rfl
  | close => exact .idle _ rfl rfl
  | reopen => exact .idle _ rfl rfl

/-- An event writes at most one line to the log, which tells what has happened to the tables. -/
theorem System.step_tells (env : Surroundings) (lifetimes : Lifetimes) (σ : System) (e : Event) :
    (σ.step env lifetimes e).log = σ.log ∧ (σ.step env lifetimes e).tables = σ.tables ∨
    ∃ x : Entry, (σ.step env lifetimes e).log = σ.log ++ [x] ∧
      x.Tells σ.tables (σ.step env lifetimes e).tables := by
  cases e with
  | arrive basic request => exact .inl ⟨rfl, rfl⟩
  | ask i o =>
    rcases σ.step_ask i o with h | ⟨basic, request, c, next, -, h⟩
    · rw [h]
      exact .inl ⟨rfl, rfl⟩
    · rw [h]
      exact .inr ⟨_, rfl, σ.service.answer_tells env o i c⟩
  | administer a o => exact .inr ⟨_, rfl, a.run_tells o σ.service.database⟩

/-- Any event makes one move, and the log tells which pair has been stored by it. -/
theorem System.step_moves (env : Surroundings) (lifetimes : Lifetimes) (σ : System) (e : Event) :
    ∃ stored, σ.tables.Moves stored (σ.step env lifetimes e).tables ∧
      (σ.step env lifetimes e).stored = σ.stored ++ stored.toList := by
  rcases σ.step_tells env lifetimes e with ⟨hlog, htables⟩ | ⟨x, hlog, hx⟩
  · refine ⟨none, ?_, ?_⟩
    · rw [htables]
      exact .stay _
    · rw [stored, hlog, Option.toList_none, List.append_nil]
      rfl
  · refine ⟨x.stored?, hx.moves, ?_⟩
    rw [stored, hlog, filterMap_concat]
    rfl

/-- After any run, whatever has been asked, done and refused, the tables hang together. -/
theorem System.run_integrity (env : Surroundings) (lifetimes : Lifetimes) (events : List Event) :
    (run env lifetimes events).tables.Integrity := by
  refine run_induction (P := fun σ ↦ σ.tables.Integrity) (A := fun _ ↦ True)
    Tables.Integrity.empty ?_ events fun _ _ ↦ trivial
  intro σ e _ h
  obtain ⟨stored, hm, -⟩ := σ.step_moves env lifetimes e
  exact h.moves hm

end TokenMint
