import TokenMint.Proofs.Grant.Refresh
import TokenMint.Proofs.Http.Failure
import TokenMint.Proofs.System.Run

/-! # The wording of a fault does not reach the client

Two systems see the same events, but what fails in one fails in the other with another wording.
Then every request asks the same in both, since nothing that it goes by tells the wordings apart;
the stores stay the same; and in the end each client reads the same.  So a response tells which
statement has failed, and whether for lack of a connection, and no more. -/

namespace TokenMint

open Store (Database Fault)

/-! ## Replies -/

/-- Two outages hit the same, with faults that are alike. -/
structure Outage.Alike (o o' : Outage) : Prop where
  query : Option.Rel Fault.Alike o.query o'.query
  pair : o.pair.Alike o'.pair

/-- Replies that differ at most in the causes of a failure. -/
def Call.Alike : (c : Call) → c.Reply → c.Reply → Prop
  | .user _ => Coincide Failure.Alike
  | .client _ => Coincide Failure.Alike
  | .refreshToken _ => Coincide Failure.Alike
  | .accessToken _ => Coincide Failure.Alike
  | .storePair _ => Coincide fun e e' ↦ e.failure = e'.failure
  | .health => Coincide Failure.Alike
  | .verify _ _ | .placeholder | .now | .freshToken => Eq

namespace Service

variable {env : Surroundings} {o o' : Outage}

theorem look_alike {α : Type} (h : o.Alike o') (s : Service) (what : String) (q : Store.Query α) :
    Coincide Failure.Alike (s.look o what q) (s.look o' what q) := by
  have hq := h.query
  unfold look Database.look
  generalize o.query = x, o'.query = y at hq
  cases hq with
  | none => exact .refl Failure.Alike.refl _
  | some hfg => exact .error (hfg.ofQuery what)

/-- Questions are answered alike, and leave the same state. -/
theorem answer_alike (h : o.Alike o') (s : Service) (c : Call) :
    c.Alike (s.answer env o c).1 (s.answer env o' c).1 ∧
      (s.answer env o c).2 = (s.answer env o' c).2 := by
  cases c with
  | user username => exact ⟨s.look_alike h _ _, rfl⟩
  | client clientId => exact ⟨s.look_alike h _ _, rfl⟩
  | refreshToken token => exact ⟨s.look_alike h _ _, rfl⟩
  | accessToken id => exact ⟨s.look_alike h _ _, rfl⟩
  | health => exact ⟨s.look_alike h _ _, rfl⟩
  | storePair pair =>
    obtain ⟨hreply, hdb⟩ := s.database.storePair_alike h.pair pair
    exact ⟨hreply, congrArg (fun database ↦ { s with database }) hdb⟩
  | _ => exact ⟨rfl, rfl⟩

end Service

/-! ## Programs -/

/-- Two programs ask the same as long as the replies are alike, and end alike. -/
inductive Program.Alike {α : Type} :
    Program (Except Failure α) → Program (Except Failure α) → Prop
  | done {x y : Except Failure α} (h : Coincide Failure.Alike x y) : Alike (.done x) (.done y)
  | ask {c : Call} {next next' : c.Reply → Program (Except Failure α)}
    (h : ∀ r r', c.Alike r r' → Alike (next r) (next' r')) : Alike (.ask c next) (.ask c next')

namespace Program.Alike

variable {α β : Type}

theorem ok (a : α) : Alike (.done (.ok a)) (.done (.ok a)) := .done (.ok a)

theorem error (f : Failure) : Alike (α := α) (.done (.error f)) (.done (.error f)) :=
  .done (.error (.refl f))

theorem bind {p q : Program (Except Failure α)}
    {f g : Except Failure α → Program (Except Failure β)} (h : p.Alike q)
    (hf : ∀ x y, Coincide Failure.Alike x y → (f x).Alike (g y)) : (p >>= f).Alike (q >>= g) := by
  induction h with
  | done h => exact hf _ _ h
  | ask _ ih => exact .ask ih

end Program.Alike

namespace Endpoint

variable (lifetimes : Lifetimes)

theorem issue_alike (owner : Owner) (supersedes : Option Int) :
    (issue lifetimes owner supersedes).Alike (issue lifetimes owner supersedes) := by
  refine .ask ?_
  rintro now _ rfl
  refine .ask ?_
  rintro refreshToken _ rfl
  refine .ask ?_
  rintro accessToken _ rfl
  refine .ask ?_
  rintro _ _ (issued | @⟨e, e', hfailure⟩)
  · exact .ok _
  · refine .done (.error ⟨?_, ?_⟩)
    · rw [PairFault.report_code, PairFault.report_code, hfailure]
    · rw [PairFault.report_message, PairFault.report_message, hfailure]

theorem authenticate_alike (secret : String) (hash? : Option String) :
    (authenticate secret hash?).Alike (authenticate secret hash?) := by
  cases hash? with
  | some hash =>
    refine .ask ?_
    rintro authentic _ rfl
    exact .ok authentic
  | none =>
    refine .ask ?_
    rintro (f | hash) _ rfl
    · exact .error f
    · refine .ask ?_
      rintro authentic _ rfl
      exact .ok false

theorem grantTo_alike (secret : String) (found : Option (Owner × String)) :
    (grantTo lifetimes secret found).Alike (grantTo lifetimes secret found) := by
  refine (authenticate_alike secret _).bind ?_
  rintro _ _ (authentic | hf)
  · cases found with
    | none => exact .error _
    | some found =>
      cases authentic with
      | false => exact .error _
      | true => exact issue_alike lifetimes found.1 none
  · exact .done (.error hf)

theorem refreshGrant_alike (token : String) :
    (refreshGrant lifetimes token).Alike (refreshGrant lifetimes token) := by
  rw [refreshGrant_eq]
  refine .ask ?_
  rintro _ _ (found | hf)
  · cases found with
    | none => exact .error _
    | some found =>
      refine .ask ?_
      rintro now _ rfl
      split
      · exact .error _
      · refine .ask ?_
        rintro _ _ (access | hf)
        · dsimp only
          split
          · exact .error _
          · exact issue_alike lifetimes _ (some found.id)
        · exact .done (.error hf)
  · exact .done (.error hf)

/-- A token request goes by nothing that tells the wordings of faults apart. -/
theorem token_alike (basic : Option Credentials) (request : TokenRequest) :
    (token lifetimes basic request).Alike (token lifetimes basic request) := by
  unfold token
  split
  · exact .error _
  · refine .ask ?_
    rintro _ _ (found | hf)
    · exact grantTo_alike lifetimes _ _
    · exact .done (.error hf)
  · refine .ask ?_
    rintro _ _ (found | hf)
    · exact grantTo_alike lifetimes _ _
    · exact .done (.error hf)
  · exact refreshGrant_alike lifetimes _

end Endpoint

/-! ## Systems -/

/-- One request under way in two systems. -/
structure Thread.Alike (th th' : Thread) : Prop where
  basic : th.basic = th'.basic
  request : th.request = th'.request
  rest : th.rest.Alike th'.rest

/-- One event in two systems: the same but for the wording of what fails. -/
inductive Event.Alike : Event → Event → Prop
  | arrive (basic : Option Credentials) (request : TokenRequest) :
    Alike (.arrive basic request) (.arrive basic request)
  | ask (i : Nat) {o o' : Outage} (h : o.Alike o') : Alike (.ask i o) (.ask i o')
  | administer (act : Act) {o o' : Outage} (h : o.Alike o') :
    Alike (.administer act o) (.administer act o')

/-- Two systems that differ at most in their logs, and in the causes of failures. -/
structure System.Alike (σ σ' : System) : Prop where
  service : σ.service = σ'.service
  threads : List.Forall₂ Thread.Alike σ.threads σ'.threads

/-- The response to a request, once it is done. -/
def System.response? (σ : System) (i : Nat) : Option Http.Response :=
  (σ.answer? i).map Http.respond

/-- What is posted to the path for tokens is a token request, and its answer is the response. -/
theorem Http.route_token (lifetimes : Lifetimes) {r : Http.Request} (hpath : r.path = tokenPath)
    (hmethod : r.method = "POST") :
    route lifetimes r = respond <$> Endpoint.token lifetimes r.basic? (r.form?.getD {}) := by
  rw [route, if_pos hpath, if_pos hmethod, exchange, map_eq_pure_bind]

theorem Http.respond_congr {α : Type} [Wire α] {x y : Except Failure α}
    (h : Coincide Failure.Alike x y) : respond x = respond y := by
  cases h with
  | ok a => rfl
  | error h => exact Response.ofFailure_congr h

theorem forall₂_getElem? {α : Type} {R : α → α → Prop} {l l' : List α} (h : List.Forall₂ R l l')
    (i : Nat) : Option.Rel R l[i]? l'[i]? := by
  induction h generalizing i with
  | nil => exact .none
  | cons hr _ ih =>
    cases i with
    | zero => exact .some hr
    | succ i => exact ih i

theorem forall₂_set {α : Type} {R : α → α → Prop} {l l' : List α} (h : List.Forall₂ R l l')
    (i : Nat) {a a' : α} (ha : R a a') : List.Forall₂ R (l.set i a) (l'.set i a') := by
  induction h generalizing i with
  | nil => exact .nil
  | cons hr hl ih =>
    cases i with
    | zero => exact .cons ha hl
    | succ i => exact .cons hr (ih i)

/-- An outage that hits an act leaves the database, whatever its wording. -/
theorem Act.run_alike {o o' : Outage} (h : o.Alike o') (db : Database) (a : Act) :
    (a.run o db).2 = (a.run o' db).2 := by
  have hq := h.query
  cases a with
  | storePair pair => exact (db.storePair_alike h.pair pair).2
  | close => rfl
  | reopen => rfl
  | _ =>
    simp only [Act.run, Outage.spare]
    generalize o.query = x, o'.query = y at hq
    cases hq <;> rfl

namespace System

variable {env : Surroundings} {lifetimes : Lifetimes}

/-- One event that hits both keeps them alike. -/
theorem Alike.step {σ σ' : System} (h : σ.Alike σ') {e e' : Event} (he : e.Alike e') :
    (σ.step env lifetimes e).Alike (σ'.step env lifetimes e') := by
  obtain ⟨service, threads, log⟩ := σ
  obtain ⟨service', threads', log'⟩ := σ'
  obtain ⟨rfl, hthreads⟩ := h
  cases he with
  | arrive basic request =>
    refine ⟨rfl, List.rel_append hthreads (.cons ⟨rfl, rfl, ?_⟩ .nil)⟩
    exact Endpoint.token_alike lifetimes basic request
  | administer act ho =>
    exact ⟨congrArg (fun database ↦ { service with database })
      (act.run_alike ho service.database), hthreads⟩
  | @ask i o o' ho =>
    have hi := forall₂_getElem? hthreads i
    simp only [System.step]
    generalize threads[i]? = x, threads'[i]? = y at hi
    cases hi with
    | none => exact ⟨rfl, hthreads⟩
    | @some th th' hth =>
      obtain ⟨basic, request, rest⟩ := th
      obtain ⟨basic', request', rest'⟩ := th'
      obtain ⟨rfl, rfl, hrest⟩ := hth
      cases hrest with
      | done _ => exact ⟨rfl, hthreads⟩
      | @ask c next next' hnext =>
        obtain ⟨hreply, hservice⟩ := @Service.answer_alike env _ _ ho service c
        exact ⟨hservice, forall₂_set hthreads i ⟨rfl, rfl, hnext _ _ hreply⟩⟩

/-- However the faults of a run are worded, it goes on alike. -/
theorem Alike.run {events events' : List Event} (h : List.Forall₂ Event.Alike events events') :
    (run env lifetimes events).Alike (run env lifetimes events') :=
  List.rel_foldl (fun _ _ hσ _ _ he ↦ hσ.step he) ⟨rfl, .nil⟩ h

theorem Alike.response? {σ σ' : System} (h : σ.Alike σ') (i : Nat) :
    σ.response? i = σ'.response? i := by
  have hi := forall₂_getElem? h.threads i
  unfold System.response? System.answer?
  generalize σ.threads[i]? = x, σ'.threads[i]? = y at hi
  cases hi with
  | none => rfl
  | @some th th' hth =>
    have hrest := hth.rest
    simp only [Option.bind_some, Thread.answer?]
    generalize th.rest = p, th'.rest = q at hrest
    cases hrest with
    | done hxy => exact congrArg some (Http.respond_congr hxy)
    | ask _ => rfl

/-- Of a failure the client sees the code and the message.  Its response has the status of the
code, the challenge if that is 401 and not otherwise, and a body that is an object with one member,
the message, which is read back as it was; the causes make no difference.  Behind the endpoint too,
the wording of faults makes none: let two runs differ in nothing but the kinds and texts of what
fails, with a lack of connection in the same places.  Then the state of the service is the same
after both, and every request has got the same response. -/
theorem response_hides_causes (env : Surroundings) (lifetimes : Lifetimes) :
    (∀ f : Failure,
      let r := Http.Response.ofFailure f
      r.status = f.code.status ∧
      r.header? "www-authenticate" =
        (if r.status = 401 then some "Basic realm=Bearer" else none) ∧
      Json.Reader.whole .entries r.body = .ok [("Error", f.message)] ∧
      Wire.read r.body = .ok (ErrorBody.mk f.message)) ∧
    (∀ f g : Failure, f.code = g.code → f.message = g.message →
      Http.Response.ofFailure f = Http.Response.ofFailure g) ∧
    (∀ r : Http.Request, r.path = Http.tokenPath → r.method = "POST" →
      Http.route lifetimes r =
        Http.respond <$> Endpoint.token lifetimes r.basic? (r.form?.getD {})) ∧
    ∀ events events', List.Forall₂ Event.Alike events events' →
      let σ := run env lifetimes events
      let σ' := run env lifetimes events'
      σ.service = σ'.service ∧ ∀ i, σ.response? i = σ'.response? i := by
  refine ⟨fun f ↦ ?_, fun f g hcode hmessage ↦ Http.Response.ofFailure_congr ⟨hcode, hmessage⟩,
    fun r hpath hmethod ↦ Http.route_token lifetimes hpath hmethod, fun events events' h ↦ ?_⟩
  · intro r
    have hstatus : r.status = f.status := Http.Response.ofFailure_status f
    have hbody : r.body = Wire.write (ErrorBody.mk f.message) := Http.Response.ofFailure_body f
    rw [hstatus, hbody]
    exact ⟨rfl, Http.Response.header?_ofFailure f, ErrorBody.entries_write f.message,
      ErrorBody.read_write ⟨f.message⟩⟩
  · intro σ σ'
    have halike : σ.Alike σ' := Alike.run h
    exact ⟨halike.service, halike.response?⟩

/-- The look-up of a user fails with these words. -/
def misfortune (f : Fault) : List Event :=
  [.arrive (some ⟨"ann", "secret"⟩) { grantType := "password" }, .ask 0 { query := some f }]

/-- A disk tells of its path, and an engine of its number; the client reads of neither. -/
theorem response_hides_causes_disk :
    let told := run .counting ⟨60, 3600⟩ (misfortune (.other "cannot read \"/srv/tokens.db\""))
    let numbered := run .counting ⟨60, 3600⟩ (misfortune (.engine .unreadable))
    told.response? 0 = some (.json 500 "\x7b\"Error\":\"Failed to query user\"\x7d") ∧
      told.response? 0 = numbered.response? 0 ∧
      Json.Reader.whole .entries "\x7b\"Error\":\"Failed to query user\"\x7d" =
        .ok [("Error", "Failed to query user")] := by
  intro told numbered
  have hnone : Store.PairOutage.none.Alike .none := fun _ ↦ .none
  obtain ⟨hrendered, -, -, hruns⟩ := response_hides_causes .counting ⟨60, 3600⟩
  obtain ⟨-, hsame⟩ := hruns (misfortune (.other "cannot read \"/srv/tokens.db\""))
    (misfortune (.engine .unreadable))
    (.cons (.arrive _ _) (.cons (.ask 0 ⟨.some rfl, hnone⟩) .nil))
  obtain ⟨-, -, hentries, -⟩ := hrendered (.database "Failed to query user")
  have hbody : (Http.Response.ofFailure (.database "Failed to query user")).body =
      "\x7b\"Error\":\"Failed to query user\"\x7d" := by decide +kernel
  rw [hbody] at hentries
  exact ⟨by decide +kernel, hsame 0, hentries⟩

end System

end TokenMint
