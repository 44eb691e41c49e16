import TokenMint.Proofs.Store.Account
import TokenMint.Proofs.Store.Readiness
import TokenMint.Proofs.System.Dialogue

/-! # Looking back on a run

A line of the log is written by one event, and the lines before it are the log of the run up to that
event.  So what a line tells can be judged by the tables of its moment, and what holds of every run
holds of that moment too: `System.resume_moment`.  All lines together settle which of the stored
pairs still have rows: `System.Accounted`. -/

namespace TokenMint

open Store (Account Database TableName Tables)

/-- Whatever is asked, the clock is read once more or not at all. -/
theorem Service.readings_le_answer (env : Surroundings) (o : Outage) (c : Call) (s : Service) :
    s.readings ≤ (s.answer env o c).2.readings := by
  cases c with
  | now => exact Nat.le_succ _
  | placeholder =>
    have hsame : (s.obtainPlaceholder env).2.readings = s.readings := by rw [obtainPlaceholder_eq]
    exact Nat.le_of_eq hsame.symm
  | _ => exact Nat.le_refl _

/-! ## Moments -/

namespace System

variable {env : Surroundings} {lifetimes : Lifetimes} {σ : System}

/-- A line that is new in the log goes back to one event, before which the log was what precedes
the line. -/
theorem resume_moment {events : List Event} {l₁ l₂ : List Entry} {x : Entry}
    (h : (σ.resume env lifetimes events).log = l₁ ++ x :: l₂) (hnew : σ.log.length ≤ l₁.length) :
    ∃ before e after, events = before ++ e :: after ∧
      (σ.resume env lifetimes before).log = l₁ ∧
        ((σ.resume env lifetimes before).step env lifetimes e).log = l₁ ++ [x] := by
  induction events using List.reverseRecOn generalizing l₂ with
  | nil =>
    have hlen := congrArg List.length h
    change σ.log.length = _ at hlen
    simp only [List.length_append, List.length_cons] at hlen
    omega
  | append_singleton events e ih =>
    rw [resume_concat] at h
    have hearlier {l₃ : List Entry} (hlog : (σ.resume env lifetimes events).log = l₁ ++ x :: l₃) :
        ∃ before e' after, events ++ [e] = before ++ e' :: after ∧
          (σ.resume env lifetimes before).log = l₁ ∧
            ((σ.resume env lifetimes before).step env lifetimes e').log = l₁ ++ [x] := by
      obtain ⟨before, e', after, rfl, hbefore, hstep⟩ := ih hlog
      exact ⟨before, e', after ++ [e], by simp, hbefore, hstep⟩
    rcases (σ.resume env lifetimes events).step_tells env lifetimes e with ⟨hlog, -⟩ | ⟨y, hlog, -⟩
    · exact hearlier (hlog ▸ h)
    · rcases l₂.eq_nil_or_concat with rfl | ⟨l₃, z, rfl⟩
      · rw [hlog] at h
        obtain ⟨hl₁, hx⟩ := List.append_inj' h rfl
        refine ⟨events, e, [], rfl, hl₁, ?_⟩
        rw [hlog, h]
      · rw [hlog, List.concat_eq_append, ← List.cons_append, ← List.append_assoc] at h
        exact hearlier (List.append_inj' h rfl).1

/-- A line of the log of a run goes back to one event. -/
theorem run_moment {events : List Event} {l₁ l₂ : List Entry} {x : Entry}
    (h : (run env lifetimes events).log = l₁ ++ x :: l₂) :
    ∃ before e after, events = before ++ e :: after ∧ (run env lifetimes before).log = l₁ ∧
      ((run env lifetimes before).step env lifetimes e).log = l₁ ++ [x] :=
  resume_moment (σ := {}) h (Nat.zero_le _)

theorem run_moment_of_mem {events : List Event} {x : Entry}
    (h : x ∈ (run env lifetimes events).log) :
    ∃ before e after, events = before ++ e :: after ∧
      ((run env lifetimes before).step env lifetimes e).log =
        (run env lifetimes before).log ++ [x] := by
  obtain ⟨l₁, l₂, hlog⟩ := List.append_of_mem h
  obtain ⟨before, e, after, hevents, rfl, hstep⟩ := run_moment hlog
  exact ⟨before, e, after, hevents, hstep⟩

/-- The log only grows. -/
theorem resume_log (events : List Event) : σ.log <+: (σ.resume env lifetimes events).log := by
  refine resume_induction (P := fun σ' ↦ σ.log <+: σ'.log) (A := fun _ ↦ True)
    (List.prefix_refl _) ?_ events fun _ _ ↦ trivial
  intro σ' e _ h
  rcases σ'.step_tells env lifetimes e with ⟨hlog, -⟩ | ⟨x, hlog, -⟩
  · rw [hlog]
    exact h
  · rw [hlog]
    exact h.trans (List.prefix_append _ _)

/-- A line of the log is new or has been there before. -/
theorem resume_log_split {events : List Event} {l₁ l₂ : List Entry} {x : Entry}
    (h : (σ.resume env lifetimes events).log = l₁ ++ x :: l₂) :
    σ.log.length ≤ l₁.length ∨ x ∈ σ.log := by
  rw [or_iff_not_imp_left, Nat.not_le]
  intro hlt
  have hlog : σ.log <+: l₁ ++ x :: l₂ := h ▸ resume_log events
  have hline : l₁ ++ [x] <+: l₁ ++ x :: l₂ := ⟨l₂, by simp⟩
  have hsub := List.prefix_of_prefix_length_le hline hlog (by simpa using Nat.succ_le_of_lt hlt)
  exact hsub.subset (by simp)

theorem resume_stored (events : List Event) :
    σ.stored <+: (σ.resume env lifetimes events).stored :=
  (resume_log events).filterMap _

theorem resume_turns (events : List Event) (i : Nat) :
    σ.turns i <+: (σ.resume env lifetimes events).turns i :=
  (resume_log events).filterMap _

theorem step_integrity (h : σ.tables.Integrity) (e : Event) :
    (σ.step env lifetimes e).tables.Integrity := by
  obtain ⟨stored, hm, -⟩ := σ.step_moves env lifetimes e
  exact h.moves hm

/-- Tables that hang together go on doing so, whatever they have come from. -/
theorem resume_integrity (h : σ.tables.Integrity) (events : List Event) :
    (σ.resume env lifetimes events).tables.Integrity :=
  resume_induction (P := fun σ ↦ σ.tables.Integrity) (A := fun _ ↦ True) h
    (fun _ e _ h ↦ step_integrity h e) events fun _ _ ↦ trivial

/-- Numbers that have been given out stay so. -/
theorem resume_counts (events : List Event) :
    σ.tables.Counts (σ.resume env lifetimes events).tables := by
  refine resume_induction (P := fun σ' ↦ σ.tables.Counts σ'.tables) (A := fun _ ↦ True)
    (.refl _) ?_ events fun _ _ ↦ trivial
  intro σ' e _ h
  obtain ⟨stored, hm, -⟩ := σ'.step_moves env lifetimes e
  exact h.trans (.moves hm)

/-- The clock is only ever read on. -/
theorem resume_readings (events : List Event) :
    σ.service.readings ≤ (σ.resume env lifetimes events).service.readings := by
  refine resume_induction (P := fun σ' ↦ σ.service.readings ≤ σ'.service.readings)
    (A := fun _ ↦ True) (Nat.le_refl _) ?_ events fun _ _ ↦ trivial
  intro σ' e _ h
  cases e with
  | arrive basic request => exact h
  | administer a o => exact h
  | ask i o =>
    rcases σ'.step_ask i o with hstep | ⟨basic, request, c, next, -, hstep⟩
    · rw [hstep]
      exact h
    · rw [hstep]
      exact Nat.le_trans h (σ'.service.readings_le_answer env o c)

/-- A request that was not there before has arrived in between. -/
theorem arrive_of_resume {events : List Event} {i : Nat} {th : Thread} (hi : σ.threads.length ≤ i)
    (hth : (σ.resume env lifetimes events).threads[i]? = some th) :
    .arrive th.basic th.request ∈ events := by
  induction events using List.reverseRecOn generalizing th with
  | nil =>
    change σ.threads[i]? = some th at hth
    rw [List.getElem?_eq_none hi] at hth
    cases hth
  | append_singleton events e ih =>
    rw [resume_concat] at hth
    generalize σ.resume env lifetimes events = σ' at hth ih
    rw [List.mem_append, List.mem_singleton]
    cases e with
    | arrive basic request =>
      change (σ'.threads ++ [_])[i]? = some th at hth
      rcases Nat.lt_trichotomy i σ'.threads.length with hlt | rfl | hlt
      · rw [List.getElem?_append_left hlt] at hth
        exact .inl (ih hth)
      · rw [List.getElem?_concat_length] at hth
        cases hth
        exact .inr rfl
      · rw [List.getElem?_eq_none (by simpa using Nat.succ_le_of_lt hlt)] at hth
        cases hth
    | administer a o => exact .inl (ih hth)
    | ask j o =>
      rcases σ'.step_ask j o with hstep | ⟨basic, request, c, next, hj, hstep⟩
      · rw [hstep] at hth
        exact .inl (ih hth)
      · rw [hstep] at hth
        by_cases hij : j = i
        · subst hij
          rw [List.getElem?_set_self (List.getElem?_eq_some_iff.mp hj).1] at hth
          cases hth
          have hmem := ih hj
          exact .inl hmem
        · rw [List.getElem?_set_ne hij] at hth
          exact .inl (ih hth)

/-- A new line tells of its event. -/
theorem step_log {e : Event} {x : Entry} (h : (σ.step env lifetimes e).log = σ.log ++ [x]) :
    x.Tells σ.tables (σ.step env lifetimes e).tables := by
  rcases σ.step_tells env lifetimes e with ⟨hlog, -⟩ | ⟨y, hlog, hy⟩
  · rw [hlog] at h
    exact absurd h (by simp)
  · rw [hlog] at h
    obtain rfl : y = x := by simpa using h
    exact hy

/-- A turn in the log has been taken by its request: the reply is what the service answered. -/
theorem step_turn {e : Event} {i : Nat} {u : Turn}
    (h : (σ.step env lifetimes e).log = σ.log ++ [.turn i u]) :
    ∃ o basic request next, e = .ask i o ∧ σ.threads[i]? = some ⟨basic, request, .ask u.call next⟩ ∧
      u.reply = (σ.service.answer env o u.call).1 ∧
        (σ.step env lifetimes e).service = (σ.service.answer env o u.call).2 := by
  have hne : σ.log ≠ σ.log ++ [.turn i u] := by simp
  cases e with
  | arrive basic request => exact absurd h hne
  | administer a o => exact absurd (List.append_cancel_left h) (by simp)
  | ask j o =>
    rcases σ.step_ask j o with hstep | ⟨basic, request, c, next, hth, hstep⟩
    · rw [hstep] at h
      exact absurd h hne
    · rw [hstep] at h ⊢
      have hlast := List.append_cancel_left h
      simp only [List.cons.injEq, Entry.turn.injEq, and_true] at hlast
      obtain ⟨rfl, rfl⟩ := hlast
      exact ⟨o, basic, request, next, rfl, hth, rfl, rfl⟩

/-- The turns of a request that was not there before are new. -/
theorem Recorded.length_log_le (h : σ.Recorded env lifetimes) {events : List Event} {i : Nat}
    (hi : σ.threads.length ≤ i) {l₁ l₂ : List Entry} {u : Turn}
    (hlog : (σ.resume env lifetimes events).log = l₁ ++ .turn i u :: l₂) :
    σ.log.length ≤ l₁.length := by
  rcases resume_log_split hlog with hnew | hold
  · exact hnew
  · exact absurd (h.arrived i u hold) (Nat.not_lt.mpr hi)

/-- What administrators have done is in the log with what came of it. -/
theorem step_act {e : Event} {a : Act} {r : a.Reply}
    (h : (σ.step env lifetimes e).log = σ.log ++ [.act a r]) :
    ∃ o, e = .administer a o ∧ r = (a.run o σ.service.database).1 := by
  have hne : σ.log ≠ σ.log ++ [.act a r] := by simp
  cases e with
  | arrive basic request => exact absurd h hne
  | administer b o =>
    have hlast := List.append_cancel_left h
    simp only [List.cons.injEq, Entry.act.injEq, and_true] at hlast
    obtain ⟨rfl, hr⟩ := hlast
    exact ⟨o, rfl, (eq_of_heq hr).symm⟩
  | ask j o =>
    rcases σ.step_ask j o with hstep | ⟨basic, request, c, next, hth, hstep⟩
    · rw [hstep] at h
      exact absurd h hne
    · rw [hstep] at h
      exact absurd (List.append_cancel_left h) (by simp)

end System

/-! ## Databases in runs -/

/-- Whatever is asked, of the database only the tables change. -/
theorem Service.answer_database (env : Surroundings) (o : Outage) (c : Call) (s : Service) :
    ∃ tables, (s.answer env o c).2.database = { s.database with tables } := by
  cases c with
  | storePair pair =>
    change ∃ tables, (s.database.storePair o.pair pair).2 = { s.database with tables }
    rcases s.database.storePair_cases o.pair pair with ⟨issued, t', h, -⟩ | ⟨e, h⟩
    · rw [h]
      exact ⟨t', rfl⟩
    · rw [h]
      exact ⟨_, rfl⟩
  | placeholder =>
    refine ⟨s.database.tables, ?_⟩
    change (s.obtainPlaceholder env).2.database = _
    rw [obtainPlaceholder_database]
  | _ => exact ⟨_, rfl⟩

/-- Administrators change rows, and close and open the store; all else of it stays. -/
theorem Act.run_database (o : Outage) (db : Database) (a : Act) :
    ∃ tables closed, (a.run o db).2 = { db with tables, closed } := by
  cases a with
  | createUser username hash =>
    refine Outage.spare_execute (P := fun p ↦ ∃ tables closed, p.2 = { db with tables, closed })
      (fun _ ↦ ⟨_, _, rfl⟩) (fun _ ↦ ⟨_, _, rfl⟩) fun _ _ hs ↦ ?_
    obtain ⟨-, -, t, -, rfl⟩ := Database.insert_eq_ok.mp hs
    exact ⟨t, _, rfl⟩
  | createClient clientId hash =>
    refine Outage.spare_execute (P := fun p ↦ ∃ tables closed, p.2 = { db with tables, closed })
      (fun _ ↦ ⟨_, _, rfl⟩) (fun _ ↦ ⟨_, _, rfl⟩) fun _ _ hs ↦ ?_
    obtain ⟨-, -, t, -, rfl⟩ := Database.insert_eq_ok.mp hs
    exact ⟨t, _, rfl⟩
  | createScope name isDefault =>
    refine Outage.spare_execute (P := fun p ↦ ∃ tables closed, p.2 = { db with tables, closed })
      (fun _ ↦ ⟨_, _, rfl⟩) (fun _ ↦ ⟨_, _, rfl⟩) fun _ _ hs ↦ ?_
    obtain ⟨-, -, t, -, rfl⟩ := Database.insert_eq_ok.mp hs
    exact ⟨t, _, rfl⟩
  | delete n id =>
    refine Outage.spare_execute (g := fun r ↦ r)
      (P := fun p ↦ ∃ tables closed, p.2 = { db with tables, closed })
      (fun _ ↦ ⟨_, _, rfl⟩) (fun _ ↦ ⟨_, _, rfl⟩) fun _ _ hs ↦ ?_
    obtain ⟨-, rfl⟩ := Database.deleteRow_eq_ok hs
    exact ⟨_, _, rfl⟩
  | storePair pair =>
    change ∃ tables closed, (db.storePair o.pair pair).2 = { db with tables, closed }
    rcases db.storePair_cases o.pair pair with ⟨issued, t', hs, -⟩ | ⟨e, hs⟩
    · rw [hs]
      exact ⟨t', _, rfl⟩
    · rw [hs]
      exact ⟨_, _, rfl⟩
  | close => exact ⟨_, _, rfl⟩
  | reopen => exact ⟨_, _, rfl⟩

namespace System

variable {env : Surroundings} {lifetimes : Lifetimes} {σ : System}

/-- Whatever a request asks, of the database only the tables change. -/
theorem ask_database (σ : System) (i : Nat) (o : Outage) :
    ∃ tables, (σ.step env lifetimes (.ask i o)).service.database =
      { σ.service.database with tables } := by
  rcases σ.step_ask i o with hstep | ⟨basic, request, c, next, -, hstep⟩
  · rw [hstep]
    exact ⟨_, rfl⟩
  · rw [hstep]
    exact σ.service.answer_database env o c

/-- Whatever happens, rows change, and the store is closed and opened; all else of it stays. -/
theorem step_database (σ : System) (e : Event) :
    ∃ tables closed, (σ.step env lifetimes e).service.database =
      { σ.service.database with tables, closed } := by
  cases e with
  | arrive basic request => exact ⟨_, _, rfl⟩
  | ask i o =>
    obtain ⟨tables, hdb⟩ := @ask_database env lifetimes σ i o
    exact ⟨tables, _, hdb⟩
  | administer a o => exact a.run_database o σ.service.database

theorem resume_database (σ : System) (events : List Event) :
    ∃ tables closed, (σ.resume env lifetimes events).service.database =
      { σ.service.database with tables, closed } := by
  refine resume_induction (P := fun σ' ↦ ∃ tables closed, σ'.service.database =
    { σ.service.database with tables, closed }) (A := fun _ ↦ True) ⟨_, _, rfl⟩ ?_ events
      fun _ _ ↦ trivial
  rintro σ' e - ⟨tables, closed, hdb⟩
  obtain ⟨tables', closed', hdb'⟩ := @step_database env lifetimes σ' e
  exact ⟨tables', closed', by rw [hdb', hdb]⟩

theorem step_intact (h : σ.service.database.Intact) (e : Event) :
    (σ.step env lifetimes e).service.database.Intact := by
  obtain ⟨tables, closed, hdb⟩ := @step_database env lifetimes σ e
  rw [hdb]
  exact ⟨h.missing, h.forbidden, h.readOnly⟩

theorem resume_intact (h : σ.service.database.Intact) (events : List Event) :
    (σ.resume env lifetimes events).service.database.Intact :=
  resume_induction (P := fun σ ↦ σ.service.database.Intact) (A := fun _ ↦ True) h
    (fun _ e _ h ↦ step_intact h e) events fun _ _ ↦ trivial

theorem run_intact (events : List Event) :
    (run env lifetimes events).service.database.Intact :=
  resume_intact (σ := {}) ⟨rfl, rfl, rfl⟩ events

/-- Nothing stands in the way of statements in a run from an empty store, unless it is closed. -/
theorem run_ready {events : List Event}
    (h : (run env lifetimes events).service.database.closed = false) :
    (run env lifetimes events).service.database.Ready :=
  { run_intact events with closed := h }

end System

/-! ## Deletions -/

/-- The rows that administrators have taken out, each by its table and number. -/
def System.deletions (σ : System) : List (TableName × Int) := σ.log.filterMap Entry.deleted?

/-- What puts a pair in takes no row out on its own account. -/
theorem Entry.deleted?_of_stored? {x : Entry} {p : NewPair × IssuedPair} (h : x.stored? = some p) :
    x.deleted? = none := by
  rcases Entry.stored?_eq_some.mp h with ⟨i, rfl⟩ | rfl <;> rfl

theorem Entry.deleted?_delete {n : TableName} {id : Int} {k : Nat} {y : TableName × Int} :
    y ∈ (Entry.act (.delete n id) (.ok k)).deleted?.toList ↔ y = (n, id) ∧ 0 < k := by
  cases k <;> simp [Entry.deleted?]

theorem Entry.deleted?_eq_some {x : Entry} {y : TableName × Int} (h : x.deleted? = some y) :
    ∃ k, x = .act (.delete y.1 y.2) (.ok k) := by
  unfold Entry.deleted? at h
  split at h
  · cases h
    exact ⟨_, rfl⟩
  · cases h

/-- What is deleted by an event, an administrator has deleted. -/
theorem System.step_deletions {env : Surroundings} {lifetimes : Lifetimes} {σ : System} {e : Event}
    {y : TableName × Int} (h : y ∈ (σ.step env lifetimes e).deletions) :
    y ∈ σ.deletions ∨ ∃ o, e = .administer (.delete y.1 y.2) o := by
  rcases σ.step_tells env lifetimes e with ⟨hlog, -⟩ | ⟨x, hlog, -⟩
  · rw [deletions, hlog] at h
    exact .inl h
  · rw [deletions, hlog, filterMap_concat, List.mem_append, Option.mem_toList] at h
    rcases h with h | h
    · exact .inl h
    · obtain ⟨k, rfl⟩ := Entry.deleted?_eq_some h
      obtain ⟨o, he, -⟩ := step_act hlog
      exact .inr ⟨o, he⟩

/-- The account goes on with every line of the log. -/
theorem Entry.Tells.account {x : Entry} {t t' : Tables} {l : List (NewPair × IssuedPair)}
    {d : List (TableName × Int)} (hx : x.Tells t t') (h : Account t l d) (hi : t.Integrity)
    (hl : Store.Ledger t l) : Account t' (l ++ x.stored?.toList) (d ++ x.deleted?.toList) := by
  have hc : t.Counts t' := .moves hx.moves
  cases hx with
  | idle t hs hd =>
    rw [hs, hd]
    simpa using h
  | addUser ht =>
    obtain ⟨-, -, rfl⟩ := Tables.addUser_eq_ok ht
    simpa [Entry.stored?, Entry.deleted?] using h.counts hc rfl rfl
  | addClient ht =>
    obtain ⟨-, -, rfl⟩ := Tables.addClient_eq_ok ht
    simpa [Entry.stored?, Entry.deleted?] using h.counts hc rfl rfl
  | addScope ht =>
    obtain ⟨-, -, rfl⟩ := Tables.addScope_eq_ok ht
    simpa [Entry.stored?, Entry.deleted?] using h.counts hc rfl rfl
  | remove t n id =>
    rw [show (Entry.act (.delete n id) _).stored? = none from rfl, Option.toList_none,
      List.append_nil]
    refine h.remove hi n id fun y ↦ ?_
    rw [List.mem_append, Entry.deleted?_delete, Tables.count_remove_pos]
  | store hs ht =>
    rw [hs, Entry.deleted?_of_stored? hs, Option.toList_none, List.append_nil]
    exact h.stores hi hl ht

namespace System

variable {env : Surroundings} {lifetimes : Lifetimes} {σ : System}

/-- The log of a run also tells which of the stored pairs have rows. -/
structure Accounted (env : Surroundings) (lifetimes : Lifetimes) (σ : System) : Prop
    extends σ.Recorded env lifetimes where
  account : Account σ.tables σ.stored σ.deletions

namespace Accounted

theorem start {db : Database} (hi : db.tables.Integrity) (hr : db.tables.refreshTokens.rows = [])
    (ha : db.tables.accessTokens.rows = []) : (System.on db).Accounted env lifetimes :=
  { Recorded.start hi hr ha with account := .empty _ }

theorem step (h : σ.Accounted env lifetimes) (e : Event) :
    (σ.step env lifetimes e).Accounted env lifetimes := by
  refine { h.toRecorded.step e with account := ?_ }
  rcases σ.step_tells env lifetimes e with ⟨hlog, htables⟩ | ⟨x, hlog, hx⟩
  · rw [htables, stored, deletions, hlog]
    exact h.account
  · rw [stored, deletions, hlog, filterMap_concat, filterMap_concat]
    exact hx.account h.account h.integrity h.ledger

theorem resume (h : σ.Accounted env lifetimes) (events : List Event) :
    (σ.resume env lifetimes events).Accounted env lifetimes :=
  resume_induction (P := (Accounted env lifetimes ·)) (A := fun _ ↦ True) h
    (fun _ e _ h ↦ h.step e) events fun _ _ ↦ trivial

theorem run (env : Surroundings) (lifetimes : Lifetimes) (events : List Event) :
    (System.run env lifetimes events).Accounted env lifetimes :=
  (start .empty rfl rfl).resume events

end Accounted

end System

end TokenMint
