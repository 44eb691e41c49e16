import TokenMint.Proofs.Store.Registration
import TokenMint.Proofs.Store.Transaction
import TokenMint.Proofs.System.Provision

/-! # What becomes of who is registered

Over any run, the newcomers to a table are numbered one after the other, beginning with one, and
nothing else that happens uses a number up: not a registration that fails, nor an outage, nor a
transaction that is not committed.  So a number is beyond all that the table has ever held.  Who has
been registered under a name is found by it until deleted. -/

namespace TokenMint

open Store (Database Newcomer TableName Tables)

/-! ## Registrations as acts -/

namespace Store.Newcomer

/-- To register a newcomer is an act of the administration. -/
def act : Newcomer → Act
  | user username hash => .createUser username hash
  | client clientId hash => .createClient clientId hash
  | scope name isDefault => .createScope name isDefault

/-- Registers a newcomer, unless an outage hits the statement. -/
def attempt (o : Outage) (db : Database) (n : Newcomer) : Except Failure Int × Database :=
  o.spare (fun f ↦ (.error (f.ofInsert n.kind), db)) (n.register db)

theorem attempt_cases (o : Outage) (db : Database) (n : Newcomer) :
    n.attempt o db = n.register db ∨ ∃ f, n.attempt o db = (.error f, db) := by
  unfold attempt Outage.spare
  split
  · exact .inr ⟨_, rfl⟩
  · exact .inl rfl

/-- Who is registered has been given the next number. -/
theorem attempt_eq_ok {o : Outage} {db : Database} {n : Newcomer} {id : Int}
    (h : (n.attempt o db).1 = .ok id) :
    id = db.tables.last n.table + 1 ∧ (n.attempt o db).2.tables.last n.table = id := by
  rcases n.attempt_cases o db with heq | ⟨f, heq⟩
  · rcases n.register_cases db with hreg | ⟨f, hreg⟩
    · rw [heq, hreg] at h ⊢
      cases h
      exact ⟨rfl, n.last_joined _ _⟩
    · rw [heq, hreg] at h
      cases h
  · rw [heq] at h
    cases h

/-- The owner that a newcomer has become under a number, and its hash.  Scopes own nothing. -/
def owner? (id : Int) : Newcomer → Option (Owner × String)
  | user _ hash => some (.user id, hash)
  | client _ hash => some (.client id, hash)
  | scope _ _ => none

theorem registers_joined {n : Newcomer} {id : Int} {owner : Owner} {hash : String}
    (h : n.owner? id = some (owner, hash)) (t : Tables) :
    (n.joined t id).Registers n.name hash owner := by
  cases n with
  | user username hash =>
    cases h
    exact List.mem_append_right _ (List.mem_singleton_self _)
  | client clientId hash =>
    cases h
    exact List.mem_append_right _ (List.mem_singleton_self _)
  | scope name isDefault => cases h

end Store.Newcomer

theorem System.step_register {env : Surroundings} {lifetimes : Lifetimes} (σ : System)
    (n : Newcomer) (o : Outage) :
    (σ.step env lifetimes (.administer n.act o)).service.database =
      (n.attempt o σ.service.database).2 := by
  cases n <;> rfl

/-! ## Numbers -/

/-- The number that a line of the log has given to a newcomer to a table. -/
def Entry.number? (t : TableName) : Entry → Option Int
  | .act (.createUser _ _) (.ok id) => if t = .users then some id else none
  | .act (.createClient _ _) (.ok id) => if t = .clients then some id else none
  | .act (.createScope _ _) (.ok id) => if t = .scopes then some id else none
  | _ => none

/-- The numbers that the newcomers to a table have been given, the last one last. -/
def System.numbers (σ : System) (t : TableName) : List Int := σ.log.filterMap (Entry.number? t)

/-- What gives no number to a newcomer uses none up. -/
theorem Entry.Tells.last_eq {x : Entry} {t t' : Tables} (hx : x.Tells t t') {n : Newcomer}
    (h : x.number? n.table = none) : t'.last n.table = t.last n.table := by
  cases hx with
  | idle => rfl
  | addUser ht =>
    obtain ⟨-, -, rfl⟩ := Tables.addUser_eq_ok ht
    cases n with
    | user => cases h
    | _ => rfl
  | addClient ht =>
    obtain ⟨-, -, rfl⟩ := Tables.addClient_eq_ok ht
    cases n with
    | client => cases h
    | _ => rfl
  | addScope ht =>
    obtain ⟨-, -, rfl⟩ := Tables.addScope_eq_ok ht
    cases n with
    | scope => cases h
    | _ => rfl
  | remove t m id => cases m <;> cases n <;> rfl
  | store _ ht =>
    obtain ⟨husers, hclients, hscopes⟩ := ht.principals_eq
    cases n with
    | user => exact congrArg (·.last) husers
    | client => exact congrArg (·.last) hclients
    | scope => exact congrArg (·.last) hscopes

namespace System

variable {env : Surroundings} {lifetimes : Lifetimes} {σ : System}

/-- A line that gives a number to a newcomer has been written when this was registered. -/
theorem step_number {e : Event} {x : Entry} {t : TableName} {id : Int}
    (hlog : (σ.step env lifetimes e).log = σ.log ++ [x]) (h : x.number? t = some id) :
    id = σ.tables.last t + 1 ∧ (σ.step env lifetimes e).tables.last t = id := by
  have hgiven {n : Newcomer} {o : Outage} {id' : Int}
      (hr : (n.attempt o σ.service.database).1 = .ok id')
      (hif : (if t = n.table then some id' else none) = some id) :
      id = σ.tables.last t + 1 ∧
        (σ.step env lifetimes (.administer n.act o)).tables.last t = id := by
    obtain ⟨rfl, hid⟩ := Option.ite_none_right_eq_some.mp hif
    cases hid
    rw [tables, tables, step_register]
    exact Newcomer.attempt_eq_ok hr
  unfold Entry.number? at h
  split at h
  · rename_i username hash id'
    obtain ⟨o, rfl, hr⟩ := step_act hlog
    exact hgiven (n := .user username hash) hr.symm h
  · rename_i clientId hash id'
    obtain ⟨o, rfl, hr⟩ := step_act hlog
    exact hgiven (n := .client clientId hash) hr.symm h
  · rename_i name isDefault id'
    obtain ⟨o, rfl, hr⟩ := step_act hlog
    exact hgiven (n := .scope name isDefault) hr.symm h
  · cases h

/-- An event gives a newcomer the next number, or uses none up. -/
theorem step_numbers (σ : System) (e : Event) (n : Newcomer) :
    ((σ.step env lifetimes e).numbers n.table = σ.numbers n.table ∧
      (σ.step env lifetimes e).tables.last n.table = σ.tables.last n.table) ∨
    ((σ.step env lifetimes e).numbers n.table =
        σ.numbers n.table ++ [σ.tables.last n.table + 1] ∧
      (σ.step env lifetimes e).tables.last n.table = σ.tables.last n.table + 1) := by
  rcases σ.step_tells env lifetimes e with ⟨hlog, htables⟩ | ⟨x, hlog, hx⟩
  · left
    rw [numbers, hlog, htables]
    exact ⟨rfl, rfl⟩
  · rw [numbers, hlog, filterMap_concat]
    cases h : x.number? n.table with
    | none => exact .inl ⟨List.append_nil _, hx.last_eq h⟩
    | some id =>
      obtain ⟨rfl, hlast⟩ := step_number hlog h
      exact .inr ⟨rfl, hlast⟩

/-- Over a run, the newcomers to a table are numbered one after the other. -/
theorem run_numbers (env : Surroundings) (lifetimes : Lifetimes) (events : List Event)
    (n : Newcomer) :
    let σ := run env lifetimes events
    ∃ k : Nat, σ.numbers n.table = (List.range k).map (fun i : Nat ↦ (i : Int) + 1) ∧
      σ.tables.last n.table = k := by
  refine run_induction (P := fun σ ↦ ∃ k : Nat,
    σ.numbers n.table = (List.range k).map (fun i : Nat ↦ (i : Int) + 1) ∧
      σ.tables.last n.table = k) (A := fun _ ↦ True) ⟨0, rfl, by cases n <;> rfl⟩ ?_ events
        fun _ _ ↦ trivial
  rintro σ e - ⟨k, hnumbers, hlast⟩
  rcases @step_numbers env lifetimes σ e n with ⟨hsame, hlast'⟩ | ⟨hnext, hlast'⟩
  · exact ⟨k, hsame.trans hnumbers, hlast'.trans hlast⟩
  · refine ⟨k + 1, ?_, ?_⟩
    · rw [hnext, hnumbers, hlast, List.range_succ, List.map_append]
      rfl
    · rw [hlast', hlast]
      rfl

/-- The next number of a table is beyond all that it has held. -/
theorem id_le_last_of_before {before after : List Event} {t : TableName} {i : Int}
    (hi : i ∈ (run env lifetimes before).tables.ids t) :
    i ≤ (run env lifetimes (before ++ after)).tables.last t := by
  rw [run_append]
  exact Int.le_trans ((run_integrity env lifetimes before).id_le_last hi)
    ((resume_counts after).last t)

end System

/-! ## Look-ups by name -/

/-- A look-up by name finds the row of a principal, with its number and its hash. -/
def Store.Database.Finds (db : Database) (name hash : String) : Owner → Prop
  | .user id => db.look "user" (Database.user? name) = .ok (some ⟨id, name, hash⟩)
  | .client id => db.look "client" (Database.client? name) = .ok (some ⟨id, name, hash⟩)

/-- In a ready database a look-up finds who is registered, and nobody else. -/
theorem Store.Database.Ready.finds_iff {db : Database} (h : db.Ready) (hi : db.tables.Integrity)
    {name hash : String} {owner : Owner} :
    db.Finds name hash owner ↔ db.tables.Registers name hash owner := by
  cases owner with
  | user id =>
    change (Database.user? name db).mapError _ = .ok _ ↔ _
    rw [mapError_eq_ok]
    constructor
    · intro hfound
      obtain ⟨_, -, hfound⟩ := bind_eq_ok.mp hfound
      exact List.mem_of_find?_eq_some (Except.ok.inj hfound)
    · intro hreg
      cases hlook : Database.user? name db with
      | error f => exact absurd hlook (h.user?_ne_error name f)
      | ok found => rw [Database.eq_of_user?_eq_ok hi hreg hlook]
  | client id =>
    change (Database.client? name db).mapError _ = .ok _ ↔ _
    rw [mapError_eq_ok]
    constructor
    · intro hfound
      obtain ⟨_, -, hfound⟩ := bind_eq_ok.mp hfound
      exact List.mem_of_find?_eq_some (Except.ok.inj hfound)
    · intro hreg
      cases hlook : Database.client? name db with
      | error f => exact absurd hlook (h.client?_ne_error name f)
      | ok found => rw [Database.eq_of_client?_eq_ok hi hreg hlook]

namespace System

variable {env : Surroundings} {lifetimes : Lifetimes} {σ : System}

/-- Who is registered is found, as long as the store is open, until deleted and no longer. -/
theorem Accounted.finds_iff (h : σ.Accounted env lifetimes)
    (hintact : σ.service.database.Intact) {name hash : String} {owner : Owner}
    (hreg : σ.tables.Registers name hash owner) {events : List Event}
    (hopen : (σ.resume env lifetimes events).service.database.closed = false) :
    (σ.resume env lifetimes events).service.database.Finds name hash owner ↔
      (owner.table, owner.id) ∉ (σ.resume env lifetimes events).deletions := by
  have hready : (σ.resume env lifetimes events).service.database.Ready :=
    { resume_intact hintact events with closed := hopen }
  have hlater := h.resume events
  rw [hready.finds_iff hlater.integrity]
  constructor
  · intro hstill hdeleted
    exact (hlater.account.deleted _ hdeleted).2 (Tables.hasOwner_iff.mp hstill.hasOwner)
  · exact resume_registers hreg

/-- What comes of a registration, and what becomes of who is registered.  At any open store that a
run has led to, a newcomer is refused if a row of its table has its name, as taken, and then nothing
changes.  Otherwise its table gets one more row, under a number that follows those of all earlier
newcomers, who have been numbered from one on without a gap, and that is beyond all numbers that the
table has ever held; and a user or a client is found by its name with its hash, whatever else
happens, as long as the store is open, until deleted and no longer.  A registration that an outage
hits changes nothing, and neither does a transaction that is not committed, whatever it has
written. -/
theorem registration_outcome (env : Surroundings) (lifetimes : Lifetimes) (events : List Event)
    (hopen : (run env lifetimes events).service.database.closed = false) (n : Newcomer) :
    let σ := run env lifetimes events
    let db := σ.service.database
    (n.name ∈ db.tables.names n.table → n.register db = (.error n.taken, db)) ∧
    (n.name ∉ db.tables.names n.table → ∃ (k : Nat) (id : Int), id = k + 1 ∧
      n.register db = (.ok id, { db with tables := n.joined db.tables id }) ∧
      σ.numbers n.table = (List.range k).map (fun i : Nat ↦ (i : Int) + 1) ∧
      (∀ before after, events = before ++ after →
        ∀ i ∈ (run env lifetimes before).tables.ids n.table, i < id) ∧
      ∀ owner hash, n.owner? id = some (owner, hash) → ∀ more,
        let σ' := (σ.step env lifetimes (.administer n.act {})).resume env lifetimes more
        σ'.service.database.closed = false →
          (σ'.service.database.Finds n.name hash owner ↔
            (owner.table, owner.id) ∉ σ'.deletions)) ∧
    (∀ o, n.attempt o db = n.register db ∨ ∃ f, n.attempt o db = (.error f, db)) ∧
    ∀ u report db', db.through u = (.ok report, db') → report.ending ≠ .commit none → db' = db := by
  intro σ db
  have hready : db.Ready := run_ready hopen
  refine ⟨fun htaken ↦ ?_, fun hfree ↦ ?_, fun o ↦ n.attempt_cases o db, ?_⟩
  · exact (Newcomer.register_of_ready hready n).trans (if_pos htaken)
  · obtain ⟨k, hnumbers, hlast⟩ := run_numbers env lifetimes events n
    have hreg := (Newcomer.register_of_ready hready n).trans (if_neg hfree)
    rw [show db.tables.last n.table = k from hlast] at hreg
    refine ⟨k, k + 1, rfl, hreg, hnumbers, ?_, ?_⟩
    · rintro before after rfl i hi
      exact Int.lt_add_one_of_le (hlast ▸ id_le_last_of_before hi)
    · intro owner hash howner more σ' hopen'
      have hregistered :
          (σ.step env lifetimes (.administer n.act {})).tables.Registers n.name hash owner := by
        rw [tables, step_register]
        change (n.register db).2.tables.Registers _ _ _
        rw [hreg]
        exact Newcomer.registers_joined howner _
      exact ((Accounted.run env lifetimes events).step _).finds_iff
        (step_intact (run_intact events) _) hregistered hopen'
  · intro u report db' hthrough hending
    obtain ⟨report', copy, db'', hthrough', -, hdb, -⟩ := Database.through_of_open hopen u
    rw [show db.through u = _ from hthrough'] at hthrough
    cases hthrough
    rw [hdb, if_neg hending]

/-- A user is registered, another cannot take the name, and the user is deleted. -/
def departure : List Event :=
  [.administer (.createUser "ann" "first") {}, .administer (.createUser "ann" "second") {},
    .administer (.createScope "read" true) {}, .administer (.delete .users 1) {}]

/-- The name is free again, and its number is the second: neither that of the user who has gone nor
one after an attempt that failed. -/
theorem registration_outcome_departure :
    let σ := run .counting ⟨60, 3600⟩ departure
    let db := σ.service.database
    db.closed = false ∧
    (Newcomer.scope "read" false).register db =
      (.error ((Failure.invalidInput "Scope already exists").because "UNIQUE constraint failed"),
        db) ∧
    ((Newcomer.user "ann" "third").register db).1 = .ok 2 ∧
    let σ' := (σ.step .counting ⟨60, 3600⟩ (.administer (.createUser "ann" "third") {})).resume
      .counting ⟨60, 3600⟩ [.administer .close {}, .administer .reopen {}]
    σ'.service.database.look "user" (Database.user? "ann") = .ok (some ⟨2, "ann", "third"⟩) := by
  intro σ db
  have hopen : db.closed = false := by decide +kernel
  have htables : db.tables = { users := ⟨[], 1⟩, scopes := ⟨[⟨1, "read", true⟩], 1⟩ } := by
    decide +kernel
  obtain ⟨htaken, -⟩ :=
    registration_outcome .counting ⟨60, 3600⟩ departure hopen (.scope "read" false)
  obtain ⟨-, hfree, -⟩ :=
    registration_outcome .counting ⟨60, 3600⟩ departure hopen (.user "ann" "third")
  obtain ⟨k, id, rfl, hreg, hnumbers, -, hfinds⟩ := hfree (by
    change "ann" ∉ db.tables.names .users
    rw [htables]
    decide)
  have hk : k = 1 := by
    have hlength := congrArg List.length hnumbers
    rw [List.length_map, List.length_range] at hlength
    exact hlength.symm
  subst hk
  refine ⟨hopen, htaken ?_, congrArg Prod.fst hreg, ?_⟩
  · change "read" ∈ db.tables.names .scopes
    rw [htables]
    decide
  · intro σ'
    have hopen' : σ'.service.database.closed = false := by decide +kernel
    refine (hfinds (.user 2) "third" rfl _ hopen').mpr ?_
    decide +kernel

end System

end TokenMint
