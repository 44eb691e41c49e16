import TokenMint.Proofs.Grant.Refresh
import TokenMint.Proofs.Store.Alike
import TokenMint.Proofs.Store.Reopening
import TokenMint.Proofs.System.History

/-! # A closed store

On a closed store no statement is run, whatever it is, and all fail for the same reason.  A request
that comes to ask the store gives up with the failure that says so: `Program.Yields` is this
property of programs, which is kept by every turn.  Nothing in the store changes while it is closed,
and a file is opened again as it was left. -/

namespace TokenMint

open Store (Database Disk Fault Place)

/-! ## Statements -/

/-- The failure with which an unreachable store is reported. -/
structure Failure.Unreachable (f : Failure) : Prop where
  code : f.code = .databaseUnavailable
  status : f.status = 500
  message : f.message = "Error connecting to database"

/-- What is reported of every statement on a closed store. -/
def Failure.closed : Failure := Failure.unavailable.because Fault.closed.text

theorem Failure.unreachable_closed : Failure.closed.Unreachable := ⟨rfl, rfl, rfl⟩

/-- Every lack of a connection is reported so. -/
theorem Store.Fault.unreachable_ofQuery {f : Fault} (h : f.isConnection) (what : String) :
    (f.ofQuery what).Unreachable := by
  have hf : f.ofQuery what = Failure.unavailable.dueTo f.causes := by rw [ofQuery, if_pos h]
  rw [hf]
  exact ⟨rfl, rfl, rfl⟩

namespace Store.Database

variable {db : Database}

/-- A query that finds the store closed. -/
theorem look_of_closed {α : Type} {q : Query α} (hq : q db = .error .closed) (what : String) :
    db.look what q = .error .closed := by
  rw [look, hq]
  rfl

theorem register_of_closed {s : Statement Int} (hs : s db = .error .closed) (what : String) :
    db.register what s = (.error .closed, db) := by
  rw [register, execute_of_error db hs]
  rfl

variable (h : db.closed = true)

include h

theorem require_of_closed (ts : List TableName) : db.require ts = .error .closed := by
  rw [require, if_pos h]

/-- What needs tables to begin with fails. -/
theorem require_bind_of_closed {α : Type} (ts : List TableName) (f : Unit → Except Fault α) :
    (db.require ts >>= f) = .error .closed := by
  rw [require_of_closed h]
  rfl

theorem requireWritable_bind_of_closed {α : Type} (ts : List TableName)
    (f : Unit → Except Fault α) : (db.requireWritable ts >>= f) = .error .closed := by
  have hwritable : db.requireWritable ts = .error .closed := require_bind_of_closed h _ _
  rw [hwritable]
  rfl

theorem deleteRow_of_closed (t : TableName) (id : Int) : deleteRow t id db = .error .closed := by
  unfold deleteRow
  split
  · exact require_bind_of_closed h _ _
  · exact requireWritable_bind_of_closed h _ _

/-- The transaction of a pair does not even begin. -/
theorem startPair_of_closed (o : PairOutage) :
    ∃ f, db.startPair o = .error f ∧
      ((∀ g, o .begin = some g → g.isConnection) → f.isConnection) := by
  unfold startPair
  cases hb : o .begin with
  | some f => exact ⟨f, rfl, fun ho ↦ ho f rfl⟩
  | none => exact ⟨.closed, require_bind_of_closed h _ _, fun _ ↦ rfl⟩

theorem storePair_of_closed (o : PairOutage) (pair : NewPair) :
    (db.storePair o pair).2 = db ∧ ((∀ g, o .begin = some g → g.isConnection) →
      ∃ cause, (db.storePair o pair).1 = .error (.unavailable cause)) := by
  obtain ⟨f, hf, hconnection⟩ := startPair_of_closed h o
  have hstore : db.storePair o pair =
      (.error (if f.isConnection then .unavailable f.text else .refreshToken f.text), db) := by
    simp only [storePair, hf]
  rw [hstore]
  exact ⟨rfl, fun ho ↦ ⟨f.text, by rw [if_pos (hconnection ho)]⟩⟩

end Store.Database

/-! ## Requests -/

/-- A reply to a question for the store that says that it is out of reach. -/
def Call.OutOfReach : (c : Call) → c.Reply → Prop
  | .user _ => fun r ↦ ∃ f : Failure, r = .error f ∧ f.Unreachable
  | .client _ => fun r ↦ ∃ f : Failure, r = .error f ∧ f.Unreachable
  | .refreshToken _ => fun r ↦ ∃ f : Failure, r = .error f ∧ f.Unreachable
  | .accessToken _ => fun r ↦ ∃ f : Failure, r = .error f ∧ f.Unreachable
  | .health => fun r ↦ ∃ f : Failure, r = .error f ∧ f.Unreachable
  | .storePair _ => fun r ↦ ∃ cause, r = .error (.unavailable cause)
  | .verify _ _ | .placeholder | .now | .freshToken => fun _ ↦ False

/-- A program that gives up when it finds the store out of reach, and says so. -/
def Program.Yields {α : Type} : Program (Except Failure α) → Prop
  | .done _ => True
  | .ask c next =>
    (∀ r, c.OutOfReach r → ∃ f : Failure, next r = .done (.error f) ∧ f.Unreachable) ∧
      ∀ r, (next r).Yields

namespace Program.Yields

variable {α β : Type}

/-- A question that does not go to the store. -/
theorem ask {c : Call} {next : c.Reply → Program (Except Failure α)} (hc : ∀ r, ¬ c.OutOfReach r)
    (h : ∀ r, (next r).Yields) : (Program.ask c next).Yields :=
  ⟨fun r hr ↦ absurd hr (hc r), h⟩

/-- What comes next hands failures on. -/
theorem bind {p : Program (Except Failure α)} {f : Except Failure α → Program (Except Failure β)}
    (h : p.Yields) (herror : ∀ e, f (.error e) = .done (.error e)) (hf : ∀ x, (f x).Yields) :
    (p >>= f).Yields := by
  induction p with
  | done x => exact hf x
  | ask c next ih =>
    obtain ⟨hgive, hnext⟩ := h
    refine ⟨fun r hr ↦ ?_, fun r ↦ ih r (hnext r)⟩
    obtain ⟨e, he, hu⟩ := hgive r hr
    exact ⟨e, (congrArg (·.bind f) he).trans (herror e), hu⟩

end Program.Yields

namespace Endpoint

variable (lifetimes : Lifetimes)

theorem yields_issue (owner : Owner) (supersedes : Option Int) :
    (issue lifetimes owner supersedes).Yields := by
  refine .ask nofun fun now ↦ .ask nofun fun refreshToken ↦ .ask nofun fun accessToken ↦ ?_
  constructor
  · rintro _ ⟨cause, rfl⟩
    exact ⟨_, rfl, rfl, rfl, rfl⟩
  · rintro (e | issued)
    · exact trivial
    · exact trivial

theorem yields_authenticate (secret : String) (hash? : Option String) :
    (authenticate secret hash?).Yields := by
  cases hash? with
  | some hash => exact .ask nofun fun _ ↦ trivial
  | none =>
    refine .ask nofun ?_
    rintro (e | hash)
    · exact trivial
    · exact .ask nofun fun _ ↦ trivial

theorem yields_grantTo (secret : String) (found : Option (Owner × String)) :
    (grantTo lifetimes secret found).Yields := by
  refine (yields_authenticate secret _).bind (fun _ ↦ rfl) ?_
  rintro (e | authentic)
  · exact trivial
  · rcases found with _ | ⟨owner, hash⟩
    · exact trivial
    · cases authentic with
      | false => exact trivial
      | true => exact yields_issue lifetimes owner none

theorem yields_refreshGrant (token : String) : (refreshGrant lifetimes token).Yields := by
  rw [refreshGrant_eq]
  constructor
  · rintro _ ⟨f, rfl, hf⟩
    exact ⟨f, rfl, hf⟩
  rintro (e | _ | found)
  · exact trivial
  · exact trivial
  · refine .ask nofun fun now ↦ ?_
    split
    · exact trivial
    constructor
    · rintro _ ⟨f, rfl, hf⟩
      exact ⟨f, rfl, hf⟩
    rintro (e | access)
    · exact trivial
    · dsimp only
      split
      · exact trivial
      · exact yields_issue lifetimes _ _

theorem yields_passwordGrant (c : Credentials) : (passwordGrant lifetimes c).Yields := by
  constructor
  · rintro _ ⟨f, rfl, hf⟩
    exact ⟨f, rfl, hf⟩
  · rintro (e | found)
    · exact trivial
    · exact yields_grantTo lifetimes _ _

theorem yields_clientGrant (c : Credentials) : (clientGrant lifetimes c).Yields := by
  constructor
  · rintro _ ⟨f, rfl, hf⟩
    exact ⟨f, rfl, hf⟩
  · rintro (e | found)
    · exact trivial
    · exact yields_grantTo lifetimes _ _

/-- Every token request gives up when it finds the store out of reach. -/
theorem yields_token (basic : Option Credentials) (request : TokenRequest) :
    (token lifetimes basic request).Yields := by
  unfold token
  split
  · exact trivial
  · exact yields_passwordGrant lifetimes _
  · exact yields_clientGrant lifetimes _
  · exact yields_refreshGrant lifetimes _

end Endpoint

/-! ## Systems -/

/-- What fails for reasons outside the database, fails for lack of a connection, as far as the
beginnings of statements and transactions are concerned. -/
structure Outage.Disconnects (o : Outage) : Prop where
  query : ∀ f, o.query = some f → f.isConnection
  start : ∀ f, o.pair .begin = some f → f.isConnection

theorem Service.answer_of_closed {s : Service} (h : s.database.closed = true) (env : Surroundings)
    {o : Outage} (ho : o.Disconnects) {c : Call} (hc : c.isStore) :
    c.OutOfReach (s.answer env o c).1 ∧ (s.answer env o c).2 = s := by
  have hlook {α : Type} (what : String) {q : Store.Query α} (hq : q s.database = .error .closed) :
      ∃ f : Failure, s.look o what q = .error f ∧ f.Unreachable := by
    unfold look
    cases hquery : o.query with
    | some f => exact ⟨_, rfl, Store.Fault.unreachable_ofQuery (ho.query f hquery) what⟩
    | none => exact ⟨_, Database.look_of_closed hq what, Failure.unreachable_closed⟩
  cases c with
  | user username => exact ⟨hlook "user" (Database.require_bind_of_closed h _ _), rfl⟩
  | client clientId => exact ⟨hlook "client" (Database.require_bind_of_closed h _ _), rfl⟩
  | refreshToken token => exact ⟨hlook "refresh token" (Database.require_bind_of_closed h _ _), rfl⟩
  | accessToken id => exact ⟨hlook "access token" (Database.require_bind_of_closed h _ _), rfl⟩
  | health => exact ⟨hlook "health check" (Database.require_of_closed h _), rfl⟩
  | storePair pair =>
    obtain ⟨hdb, hfails⟩ := Database.storePair_of_closed h o.pair pair
    refine ⟨hfails ho.start, ?_⟩
    change { s with database := (s.database.storePair o.pair pair).2 } = s
    rw [hdb]
  | _ => cases hc

/-- Whatever is asked of a closed store leaves it as it is. -/
theorem Service.answer_database_of_closed {s : Service} (h : s.database.closed = true)
    (env : Surroundings) (o : Outage) (c : Call) : (s.answer env o c).2.database = s.database := by
  cases c with
  | storePair pair => exact (Database.storePair_of_closed h o.pair pair).1
  | placeholder => exact s.obtainPlaceholder_database env
  | _ => rfl

/-- Nothing that administrators do to a closed store, other than opening it, does anything. -/
theorem Act.run_of_closed {db : Database} (h : db.closed = true) (o : Outage) {a : Act}
    (ha : a ≠ .reopen) : (a.run o db).2 = db := by
  have hregister {s : Store.Statement Int} (hs : s db = .error .closed) (what : String)
      (hit : Fault → Except Failure Int) :
      (o.spare (fun f ↦ (hit f, db)) (db.register what s)).2 = db := by
    rw [Database.register_of_closed hs, Outage.spare]
    split <;> rfl
  cases a with
  | createUser username hash =>
    exact hregister (Database.requireWritable_bind_of_closed h _ _) "User" _
  | createClient clientId hash =>
    exact hregister (Database.requireWritable_bind_of_closed h _ _) "Client" _
  | createScope name isDefault =>
    exact hregister (Database.requireWritable_bind_of_closed h _ _) "Scope" _
  | delete t id =>
    change (o.spare (fun f ↦ (Except.error f, db)) (db.execute (Database.deleteRow t id))).2 = db
    rw [Database.execute_of_error db (Database.deleteRow_of_closed h t id), Outage.spare]
    split <;> rfl
  | storePair pair => exact (Database.storePair_of_closed h o.pair pair).1
  | close =>
    change { db with closed := true } = db
    rw [← h]
  | reopen => exact absurd rfl ha

/-- Nobody opens the store, and what fails of what requests ask, fails for lack of a connection. -/
def Event.StaysClosed : Event → Prop
  | .arrive _ _ => True
  | .ask _ o => o.Disconnects
  | .administer a _ => a ≠ .reopen

namespace System

variable {env : Surroundings} {lifetimes : Lifetimes}

/-- All requests under way give up when they find the store out of reach. -/
def Yielding (σ : System) : Prop := ∀ th ∈ σ.threads, th.rest.Yields

theorem Yielding.step {σ : System} (h : σ.Yielding) (e : Event) :
    (σ.step env lifetimes e).Yielding := by
  intro th hth
  cases e with
  | arrive basic request =>
    rcases List.mem_append.mp hth with hth | hth
    · exact h th hth
    · cases List.mem_singleton.mp hth
      exact Endpoint.yields_token lifetimes basic request
  | administer a o => exact h th hth
  | ask i o =>
    rcases @step_ask env lifetimes σ i o with hstep | ⟨_, _, c, next, hi, hstep⟩
    · rw [hstep] at hth
      exact h th hth
    · rw [hstep] at hth
      rcases List.mem_or_eq_of_mem_set hth with hth | rfl
      · exact h th hth
      · exact (h _ (List.mem_of_getElem? hi)).2 _

theorem Yielding.resume {σ : System} (h : σ.Yielding) (events : List Event) :
    (σ.resume env lifetimes events).Yielding :=
  resume_induction (P := Yielding) (A := fun _ ↦ True) h (fun _ e _ h ↦ h.step e) events
    fun _ _ ↦ trivial

/-- A request that asks a closed store is answered that it is out of reach, and nothing changes. -/
theorem step_of_closed {σ : System} (hyields : σ.Yielding)
    (h : σ.service.database.closed = true) {i : Nat} {basic : Option Credentials}
    {request : TokenRequest} {c : Call} {next : c.Reply → Program (Except Failure TokenResponse)}
    (hth : σ.threads[i]? = some ⟨basic, request, .ask c next⟩) (hc : c.isStore) {o : Outage}
    (ho : o.Disconnects) :
    (σ.step env lifetimes (.ask i o)).service = σ.service ∧
      ∃ f, (σ.step env lifetimes (.ask i o)).answer? i = some (.error f) ∧ f.Unreachable := by
  obtain ⟨hreply, hservice⟩ := σ.service.answer_of_closed h env ho hc
  obtain ⟨f, hf, hu⟩ := (hyields _ (List.mem_of_getElem? hth)).1 _ hreply
  have hlt : i < σ.threads.length := (List.getElem?_eq_some_iff.mp hth).1
  simp only [step, hth]
  refine ⟨hservice, f, ?_, hu⟩
  change ((σ.threads.set i _)[i]?).bind _ = _
  rw [List.getElem?_set_self hlt]
  exact congrArg (fun p ↦ Thread.answer? ⟨basic, request, p⟩) hf

/-- What happens while the store stays closed leaves it as it is. -/
theorem step_database_of_closed {σ : System} (h : σ.service.database.closed = true) {e : Event}
    (he : e.StaysClosed) :
    (σ.step env lifetimes e).service.database = σ.service.database := by
  cases e with
  | arrive basic request => rfl
  | administer a o => exact Act.run_of_closed h o he
  | ask i o =>
    rcases @step_ask env lifetimes σ i o with hstep | ⟨_, _, c, _, -, hstep⟩
    · rw [hstep]
    · rw [hstep]
      exact Service.answer_database_of_closed h env o c

/-- A request that is done has arrived, and others that arrive change nothing for it. -/
theorem answer?_arrive {σ : System} {i : Nat} {a : Except Failure TokenResponse}
    (h : σ.answer? i = some a) (basic : Option Credentials) (request : TokenRequest) :
    (σ.step env lifetimes (.arrive basic request)).answer? i = some a := by
  obtain ⟨th, hth, hdone⟩ := Option.bind_eq_some_iff.mp h
  have hlt : i < σ.threads.length := (List.getElem?_eq_some_iff.mp hth).1
  change ((σ.threads ++ [_])[i]?).bind _ = _
  rw [List.getElem?_append_left hlt, hth]
  exact hdone

/-- If a request has taken more turns than these and asked the store in one, that was its last turn,
and it has been answered that the store is unreachable. -/
def GivesUp (σ : System) (i : Nat) (l : List Turn) : Prop :=
  ∀ t₁ u t₂, σ.turns i = l ++ (t₁ ++ u :: t₂) → u.call.isStore →
    t₂ = [] ∧ ∃ f, σ.answer? i = some (.error f) ∧ f.Unreachable

namespace GivesUp

variable {σ : System} {i : Nat} {l : List Turn}

theorem start (σ : System) (i : Nat) : σ.GivesUp i (σ.turns i) := by
  intro t₁ u t₂ hturns
  exact absurd (List.self_eq_append_right.mp hturns) (by simp)

/-- A turn on a closed store is the first one that asks it, for otherwise the request was done. -/
theorem ask (h : σ.GivesUp i l) (hl : l <+: σ.turns i) (hyields : σ.Yielding)
    (hclosed : σ.service.database.closed = true) {basic : Option Credentials}
    {request : TokenRequest} {c : Call} {next : c.Reply → Program (Except Failure TokenResponse)}
    (hi : σ.threads[i]? = some ⟨basic, request, .ask c next⟩) {o : Outage} (ho : o.Disconnects) :
    (σ.step env lifetimes (.ask i o)).GivesUp i l := by
  intro t₁ u t₂ hturns hu
  have hlog : (σ.step env lifetimes (.ask i o)).log =
      σ.log ++ [.turn i ⟨c, (σ.service.answer env o c).1⟩] := by
    simp only [step, hi]
    rfl
  obtain ⟨t, ht⟩ := hl
  rw [turns_concat hlog, if_pos rfl, ← ht, List.append_assoc] at hturns
  replace hturns := List.append_cancel_left hturns
  rcases t₂.eq_nil_or_concat with rfl | ⟨t₃, z, rfl⟩
  · -- this is the turn that has just been taken
    obtain ⟨-, hlast⟩ := List.append_inj' hturns rfl
    obtain rfl : _ = u := by simpa using hlast
    exact ⟨rfl, (step_of_closed hyields hclosed hi hu ho).2⟩
  · -- this turn was taken before, so that the request was done
    rw [List.concat_eq_append, ← List.cons_append, ← List.append_assoc] at hturns
    obtain ⟨rfl, -⟩ := List.append_inj' hturns rfl
    obtain ⟨-, f, hf, -⟩ := h t₁ u t₃ ht.symm hu
    rw [answer?, hi] at hf
    cases hf

theorem step (h : σ.GivesUp i l) (hl : l <+: σ.turns i) (hyields : σ.Yielding)
    (hclosed : σ.service.database.closed = true) {e : Event} (he : e.StaysClosed) :
    (σ.step env lifetimes e).GivesUp i l := by
  cases e with
  | arrive basic request =>
    intro t₁ u t₂ hturns hu
    obtain ⟨ht₂, f, hf, hunreachable⟩ := h t₁ u t₂ hturns hu
    exact ⟨ht₂, f, answer?_arrive hf basic request, hunreachable⟩
  | administer a o =>
    intro t₁ u t₂ hturns hu
    have hsame : (σ.step env lifetimes (.administer a o)).turns i = σ.turns i :=
      (filterMap_concat ..).trans (List.append_nil _)
    exact h t₁ u t₂ (hsame ▸ hturns) hu
  | ask j o =>
    rcases @step_ask env lifetimes σ j o with hstep | ⟨basic, request, c, next, hj, hstep⟩
    · rw [hstep]
      exact h
    · by_cases hij : j = i
      · subst hij
        exact h.ask hl hyields hclosed hj he
      · -- another request takes a turn
        intro t₁ u t₂ hturns hu
        rw [turns_concat (congrArg log hstep), if_neg hij, List.append_nil] at hturns
        obtain ⟨ht₂, f, hf, hunreachable⟩ := h t₁ u t₂ hturns hu
        refine ⟨ht₂, f, ?_, hunreachable⟩
        rw [hstep, answer?, List.getElem?_set_ne hij]
        exact hf

end GivesUp

/-- While the store stays closed it stays as it is, and a request that asks it is done: the failure
that says so is its answer. -/
theorem resume_of_closed {σ : System} (hyields : σ.Yielding)
    (h : σ.service.database.closed = true) {events : List Event}
    (hevents : ∀ e ∈ events, e.StaysClosed) :
    (σ.resume env lifetimes events).service.database = σ.service.database ∧
      ∀ i, (σ.resume env lifetimes events).GivesUp i (σ.turns i) := by
  induction events using List.reverseRecOn with
  | nil => exact ⟨rfl, .start σ⟩
  | append_singleton events e ih =>
    obtain ⟨hdb, hgives⟩ := ih fun e he ↦ hevents e (List.mem_append_left _ he)
    have he : e.StaysClosed := hevents e (by simp)
    have hclosed : (σ.resume env lifetimes events).service.database.closed = true := by rw [hdb, h]
    rw [resume_concat]
    refine ⟨(step_database_of_closed hclosed he).trans hdb, fun i ↦ ?_⟩
    exact (hgives i).step (resume_turns events i) (hyields.resume events) hclosed he

/-- A request for a grant that there is begins by asking the store. -/
theorem exists_ask_of_supported (lifetimes : Lifetimes) (basic : Option Credentials)
    {request : TokenRequest} {g : GrantType} (hg : request.grantType = g.name) :
    ∃ c next, Endpoint.token lifetimes basic request = .ask c next ∧ c.isStore := by
  rw [Endpoint.token, GrantType.parse_eq_ok.mpr hg]
  cases g with
  | password => exact ⟨_, _, rfl, rfl⟩
  | clientCredentials => exact ⟨_, _, rfl, rfl⟩
  | refreshToken => exact ⟨_, _, rfl, rfl⟩

/-- A request that finds the store closed from the beginning is told so at once. -/
theorem run_token_of_closed {s : Service} (h : s.database.closed = true) (env : Surroundings)
    (lifetimes : Lifetimes) {o : Outage} (ho : o.Disconnects) (basic : Option Credentials)
    {request : TokenRequest} {g : GrantType} (hg : request.grantType = g.name) :
    ∃ f, (Endpoint.token lifetimes basic request).run (Service.answer env o) s = (.error f, s) ∧
      f.Unreachable := by
  have hyields := Endpoint.yields_token lifetimes basic request
  obtain ⟨c, next, htoken, hc⟩ := exists_ask_of_supported lifetimes basic hg
  rw [htoken] at hyields ⊢
  obtain ⟨hreply, hservice⟩ := s.answer_of_closed h env ho hc
  obtain ⟨f, hf, hu⟩ := hyields.1 _ hreply
  refine ⟨f, ?_, hu⟩
  rw [Program.run_ask, hf, hservice]
  rfl

/-- A closed store is always reported as unreachable, and nothing changes in it.  Wherever a request
stands when the store has been closed, the first thing that it asks the store is its last: it is
done with the failure that says so, the store is as it was, and so it stays until somebody opens it.
All statements fail in this way.  A database in a file that persists, left in whatever state, has
the same tables when it is opened again; and every file that is there before it is opened
persists. -/
theorem closed_store_reported (env : Surroundings) (lifetimes : Lifetimes) :
    (∀ db events, let σ := (on db).resume env lifetimes events
      σ.service.database.closed = true →
      (∀ i basic request c next o, σ.threads[i]? = some ⟨basic, request, .ask c next⟩ →
        c.isStore → o.Disconnects →
        let σ' := σ.step env lifetimes (.ask i o)
        σ'.service = σ.service ∧ ∃ f, σ'.answer? i = some (.error f) ∧ f.Unreachable) ∧
      (∀ more, (∀ e ∈ more, e.StaysClosed) →
        let σ' := σ.resume env lifetimes more
        σ'.service.database = σ.service.database ∧
          ∀ i t₁ u t₂, σ'.turns i = σ.turns i ++ (t₁ ++ u :: t₂) → u.call.isStore →
            t₂ = [] ∧ ∃ f, σ'.answer? i = some (.error f) ∧ f.Unreachable) ∧
      ∀ basic request (g : GrantType) o, request.grantType = g.name → o.Disconnects →
        ∃ f, (Endpoint.token lifetimes basic request).run (Service.answer env o) σ.service =
          (.error f, σ.service) ∧ f.Unreachable) ∧
    (∀ db : Database, db.closed = true → Failure.closed.Unreachable ∧ ∀ what,
      (∀ username, db.look what (Database.user? username) = .error .closed) ∧
      (∀ clientId, db.look what (Database.client? clientId) = .error .closed) ∧
      (∀ token, db.look what (Database.refreshToken? token) = .error .closed) ∧
      (∀ id, db.look what (Database.accessToken? id) = .error .closed) ∧
      (∀ id, db.look what (Database.scopesOf id) = .error .closed) ∧
      db.look what Database.health = .error .closed ∧
      (∀ username hash, db.createUser username hash = (.error .closed, db)) ∧
      (∀ clientId hash, db.createClient clientId hash = (.error .closed, db)) ∧
      ∀ name isDefault, db.createScope name isDefault = (.error .closed, db)) ∧
    ∀ (d : Disk) (l : Location) (p : Place), d.Plain →
      (d.Persists l p → ∃ db d₁, d.openLocation l = (.ok ⟨db, some p⟩, d₁) ∧
        ∀ events, let σ := (on db).resume env lifetimes events
          ∃ db' d₂, (d₁.keep ⟨db, some p⟩ σ.service.database.close).openLocation l =
            (.ok ⟨db', some p⟩, d₂) ∧ Database.contents db' = .ok σ.tables) ∧
      ∀ db before d₁, d.openLocation l = (.ok ⟨db, some p⟩, d₁) →
        d.node? p = some (.file before) → d.Persists l p := by
  refine ⟨fun db events ↦ ?_, fun db h ↦ ⟨Failure.unreachable_closed, fun what ↦ ?_⟩,
    fun d l p hd ↦ ⟨fun hp ↦ ?_, fun db before d₁ hopen hfile ↦ .of_file hd hopen hfile⟩⟩
  · intro σ h
    have hyields : σ.Yielding :=
      Yielding.resume (σ := on db) (fun _ hth ↦ absurd hth List.not_mem_nil) events
    refine ⟨fun i basic request c next o hth hc ho ↦ step_of_closed hyields h hth hc ho,
      fun more hmore ↦ resume_of_closed hyields h hmore, fun basic request g o hg ho ↦ ?_⟩
    exact run_token_of_closed h env lifetimes ho basic hg
  · have hlook {α : Type} {q : Store.Query α} (hq : q db = .error .closed) :
        db.look what q = .error .closed := Database.look_of_closed hq what
    refine ⟨fun username ↦ hlook ?_, fun clientId ↦ hlook ?_, fun token ↦ hlook ?_,
      fun id ↦ hlook ?_, fun id ↦ hlook ?_, hlook ?_, fun username hash ↦ ?_,
      fun clientId hash ↦ ?_, fun name isDefault ↦ ?_⟩
    · exact Database.require_bind_of_closed h _ _
    · exact Database.require_bind_of_closed h _ _
    · exact Database.require_bind_of_closed h _ _
    · exact Database.require_bind_of_closed h _ _
    · exact Database.require_bind_of_closed h _ _
    · exact Database.require_of_closed h _
    · exact Database.register_of_closed (Database.requireWritable_bind_of_closed h _ _) "User"
    · exact Database.register_of_closed (Database.requireWritable_bind_of_closed h _ _) "Client"
    · exact Database.register_of_closed (Database.requireWritable_bind_of_closed h _ _) "Scope"
  · obtain ⟨db, d₁, hopen, hmissing, hagain⟩ := hp.openLocation_keep hd
    refine ⟨db, d₁, hopen, fun events ↦ ?_⟩
    intro σ
    obtain ⟨tables, closed, hdb⟩ :=
      @resume_database env lifetimes (on db) events
    have hcomplete : σ.service.database.close.missing = [] := by
      change σ.service.database.missing = []
      rw [hdb]
      exact hmissing
    obtain ⟨d₂, hopened⟩ := hagain σ.service.database.close hcomplete
    refine ⟨_, d₂, hopened, ?_⟩
    simp [Database.contents, Database.require, Database.revived, Database.has, hcomplete, bind,
      Except.bind]
    rfl

/-- A user asks for tokens, and the store is closed just before the pair is stored. -/
def interrupted : List Event :=
  [.administer (.createUser "ann" "secret") {},
    .arrive (some ⟨"ann", "secret"⟩) { grantType := "password" }]
    ++ List.replicate 5 (.ask 0 {}) ++ [.administer .close {}]

/-- The user learns that the store is unreachable and gets nothing.  In a file, the user would be
there when it is opened again. -/
theorem closed_store_reported_interrupted :
    let σ := (on {}).resume .counting ⟨60, 3600⟩ interrupted
    let σ' := σ.step .counting ⟨60, 3600⟩ (.ask 0 {})
    (σ.answer? 0 = none ∧ σ'.service = σ.service ∧
      ∃ f, σ'.answer? 0 = some (.error f) ∧ f.Unreachable) ∧
    ∃ db d₁, Disk.openLocation {} .standard = (.ok ⟨db, some ["data", "oauth2_tokens.db"]⟩, d₁) ∧
      let σ := (on db).resume .counting ⟨60, 3600⟩ interrupted
      ∃ db' d₂, (d₁.keep ⟨db, some ["data", "oauth2_tokens.db"]⟩
          σ.service.database.close).openLocation .standard =
        (.ok ⟨db', some ["data", "oauth2_tokens.db"]⟩, d₂) ∧
          Database.contents db' = .ok σ.tables := by
  obtain ⟨hclosed, -, hreopened⟩ := closed_store_reported .counting ⟨60, 3600⟩
  have hnone : Outage.Disconnects {} := ⟨nofun, nofun⟩
  have hpersists : Disk.Persists {} .standard ["data", "oauth2_tokens.db"] :=
    ⟨{}, ⟨[], [(["data", "oauth2_tokens.db"], .file {})]⟩, {},
      ⟨[], [(["data", "oauth2_tokens.db"], .file {})]⟩, by decide +kernel, by decide +kernel⟩
  obtain ⟨db, d₁, hopen, hagain⟩ := (hreopened {} .standard _ List.nodup_nil).1 hpersists
  refine ⟨⟨rfl, ?_⟩, db, d₁, hopen, hagain interrupted⟩
  exact (hclosed {} interrupted rfl).1 0 _ _ (.storePair _) _ {} rfl rfl hnone

end System

end TokenMint
