import TokenMint.Proofs.Store.Live
import TokenMint.Proofs.System.History
import TokenMint.Proofs.System.SingleUse

/-! # Pairs are neither lost nor duplicated

As long as administrators delete nothing, the tables hold the live pairs and no other tokens,
however the turns of the requests are mixed and whichever statements fail.  A rotation takes one
pair out and puts one in, and a request that fails does neither: so there are as many pairs as
grants to whoever presented a secret. -/

namespace TokenMint

open Store (Database Holds TableName live superseded)

/-- Whether an event deletes a row. -/
def Event.deletes : Event → Bool
  | .administer (.delete _ _) _ => true
  | _ => false

/-- Whether a request has presented a secret and been answered with a pair. -/
def Thread.granted (th : Thread) : Bool :=
  th.request.grantType ∈ [GrantType.password.name, GrantType.clientCredentials.name] &&
    match th.answer? with
    | some (.ok _) => true
    | _ => false

theorem Thread.granted_iff {th : Thread} :
    th.granted ↔
      th.request.grantType ∈ [GrantType.password.name, GrantType.clientCredentials.name] ∧
        ∃ res, th.rest = .done (.ok res) := by
  obtain ⟨basic, request, rest⟩ := th
  rcases rest with (f | res) | ⟨c, next⟩ <;> simp [granted, answer?]

/-- A request that is under way has not been granted anything yet. -/
theorem Thread.not_granted_of_ask {th : Thread} {c : Call}
    {next : c.Reply → Program (Except Failure TokenResponse)} (h : th.rest = .ask c next) :
    ¬ th.granted := by
  rw [granted_iff, h]
  simp

namespace System

variable {env : Surroundings} {lifetimes : Lifetimes} {σ : System}

/-- Whoever arrives, and who takes a turn that is not the last of a grant, is granted nothing. -/
theorem countP_granted_step {e : Event} (σ : System)
    (h : ∀ i o th, e = .ask i o → (σ.step env lifetimes e).threads[i]? = some th → ¬ th.granted) :
    (σ.step env lifetimes e).threads.countP (·.granted) = σ.threads.countP (·.granted) := by
  cases e with
  | arrive basic request =>
    have hnot : ¬ (Thread.mk basic request (Endpoint.token lifetimes basic request)).granted := by
      rw [Thread.granted_iff]
      rintro ⟨-, res, hres⟩
      exact Endpoint.token_ne_ok hres
    change (σ.threads ++ [_]).countP (fun th : Thread ↦ th.granted) = _
    rw [List.countP_append, List.countP_singleton, if_neg hnot, Nat.add_zero]
  | ask i o =>
    rcases σ.step_ask i o with hstep | ⟨basic, request, c, next, hth, hstep⟩
    · rw [hstep]
    · obtain ⟨hlt, hget⟩ := List.getElem?_eq_some_iff.mp hth
      have hnot := h i o _ rfl (by rw [hstep]; exact List.getElem?_set_self hlt)
      rw [hstep, List.countP_set hlt, hget, if_neg (Thread.not_granted_of_ask rfl), if_neg hnot]
      rfl
  | administer a o => rfl

/-- The system has lost no pair, and duplicated none. -/
structure Conserved (env : Surroundings) (lifetimes : Lifetimes) (σ : System) : Prop
    extends σ.Accounted env lifetimes where
  holds : Holds σ.tables σ.stored
  granted : (live σ.stored).length = σ.threads.countP (·.granted)

namespace Conserved

theorem start {db : Database} (hi : db.tables.Integrity) (hr : db.tables.refreshTokens.rows = [])
    (ha : db.tables.accessTokens.rows = []) : (System.on db).Conserved env lifetimes :=
  { Accounted.start hi hr ha with
    holds := ⟨hr, ha⟩
    granted := rfl }

theorem holds_step (h : σ.Conserved env lifetimes) {e : Event} (hd : ¬ e.deletes) :
    Holds (σ.step env lifetimes e).tables (σ.step env lifetimes e).stored := by
  rcases σ.step_tells env lifetimes e with ⟨hlog, htables⟩ | ⟨x, hlog, hx⟩
  · rw [htables, stored, hlog]
    exact h.holds
  · rw [stored, hlog, filterMap_concat]
    generalize (σ.step env lifetimes e).tables = t' at hx
    have hholds := h.holds
    have hi := h.integrity
    have hl := h.ledger
    generalize σ.tables = t at hx hholds hi hl
    cases hx with
    | idle _ hs =>
      rw [hs, Option.toList_none, List.append_nil]
      exact hholds
    | addUser ht =>
      obtain ⟨-, -, rfl⟩ := Store.Tables.addUser_eq_ok ht
      simpa [Entry.stored?] using ⟨hholds.refreshRows, hholds.accessRows⟩
    | addClient ht =>
      obtain ⟨-, -, rfl⟩ := Store.Tables.addClient_eq_ok ht
      simpa [Entry.stored?] using ⟨hholds.refreshRows, hholds.accessRows⟩
    | addScope ht =>
      obtain ⟨-, -, rfl⟩ := Store.Tables.addScope_eq_ok ht
      simpa [Entry.stored?] using ⟨hholds.refreshRows, hholds.accessRows⟩
    | remove _ n id =>
      obtain ⟨o, rfl, -⟩ := step_act hlog
      exact absurd rfl hd
    | store hs ht =>
      rw [hs]
      exact hholds.stores hi hl ht

/-- A request is granted something with the turn that puts in a pair, if that replaces no other. -/
theorem granted_ask (h : σ.Conserved env lifetimes) (i : Nat) (o : Outage) :
    (live (σ.step env lifetimes (.ask i o)).stored).length =
      (σ.step env lifetimes (.ask i o)).threads.countP (·.granted) := by
  rcases σ.step_ask i o with hstep | ⟨basic, request, c, next, hth, hstep⟩
  · rw [hstep]
    exact h.granted
  · generalize hr : (σ.service.answer env o c).1 = r at hstep
    have hlog : (σ.step env lifetimes (.ask i o)).log = σ.log ++ [.turn i ⟨c, r⟩] :=
      congrArg log hstep
    have hthreads : (σ.step env lifetimes (.ask i o)).threads =
        σ.threads.set i ⟨basic, request, next r⟩ :=
      congrArg threads hstep
    have hstored : (σ.step env lifetimes (.ask i o)).stored =
        σ.stored ++ (Turn.stored? ⟨c, r⟩).toList := by
      rw [stored, hlog, filterMap_concat, Entry.stored?_turn]
      rfl
    have hsucceeds := Endpoint.token_succeeds_iff ((h.leads i _ hth).turn r)
    obtain ⟨hlt, hget⟩ := List.getElem?_eq_some_iff.mp hth
    rw [hstored, hthreads, List.countP_set hlt, hget, if_neg (Thread.not_granted_of_ask rfl),
      Nat.sub_zero, ← h.granted]
    cases hu : Turn.stored? ⟨c, r⟩ with
    | none =>
      have hnot : ¬ (Thread.mk basic request (next r)).granted := by
        rw [Thread.granted_iff]
        rintro ⟨-, hok⟩
        obtain ⟨p, hp⟩ := hsucceeds.mp hok
        rw [hu] at hp
        cases hp
      rw [if_neg hnot, Option.toList_none, List.append_nil, Nat.add_zero]
    | some p =>
      have hobtains : (σ.step env lifetimes (.ask i o)).Obtains i p := by
        rw [Obtains, hlog, Turn.stored?_eq_some.mp hu]
        exact List.mem_append_right _ (List.mem_singleton_self _)
      obtain ⟨th, t, now, hth', -, he⟩ := (h.toRecorded.step (.ask i o)).entitled hobtains
      rw [hthreads, List.getElem?_set_self hlt] at hth'
      cases hth'
      have hiff : (Thread.mk basic request (next r)).granted ↔ p.1.supersedes = none := by
        rw [Thread.granted_iff, he.supersedes_eq_none_iff]
        exact and_iff_left (hsucceeds.mpr ⟨p, hu⟩)
      have hstores := (step_log hlog).stores (Entry.stored?_turn.trans hu)
      rw [Option.toList_some, if_congr hiff rfl rfl]
      exact h.holds.length_live h.integrity h.ledger hstores

theorem granted_step (h : σ.Conserved env lifetimes) {e : Event} (hp : ¬ e.putsPair) :
    (live (σ.step env lifetimes e).stored).length =
      (σ.step env lifetimes e).threads.countP (·.granted) := by
  cases e with
  | arrive basic request =>
    rw [σ.countP_granted_step fun _ _ _ he ↦ by cases he]
    exact h.granted
  | ask i o => exact h.granted_ask i o
  | administer a o =>
    have hstored : (σ.step env lifetimes (.administer a o)).stored = σ.stored := by
      refine (filterMap_concat ..).trans ?_
      cases a with
      | storePair pair => exact absurd rfl hp
      | _ => exact List.append_nil _
    rw [hstored]
    exact h.granted

theorem step (h : σ.Conserved env lifetimes) {e : Event} (hp : ¬ e.putsPair) (hd : ¬ e.deletes) :
    (σ.step env lifetimes e).Conserved env lifetimes :=
  { h.toAccounted.step e with
    holds := h.holds_step hd
    granted := h.granted_step hp }

theorem resume (h : σ.Conserved env lifetimes) {events : List Event}
    (hp : ∀ e ∈ events, ¬ e.putsPair) (hd : ∀ e ∈ events, ¬ e.deletes) :
    (σ.resume env lifetimes events).Conserved env lifetimes :=
  resume_induction (P := (Conserved env lifetimes ·)) (A := fun e ↦ ¬ e.putsPair ∧ ¬ e.deletes) h
    (fun _ _ he h ↦ h.step he.1 he.2) events fun e he ↦ ⟨hp e he, hd e he⟩

end Conserved

/-- No pair is lost or duplicated.  From a store without tokens, however the turns of any number of
requests are mixed and whichever statements fail, unless an administrator deletes something: refresh
tokens and access tokens go together one with one, they are those of the pairs that have been stored
and not replaced, and there are as many pairs as requests that have presented a secret and been
answered with tokens; so nothing changes that number but the last turn of such a request. -/
theorem pairs_conserved (env : Surroundings) (lifetimes : Lifetimes) (db : Database)
    (events : List Event) (hi : db.tables.Integrity) (hr : db.tables.refreshTokens.rows = [])
    (ha : db.tables.accessTokens.rows = []) (hput : ∀ e ∈ events, ¬ e.putsPair)
    (hdel : ∀ e ∈ events, ¬ e.deletes) :
    let σ := (System.on db).resume env lifetimes events
    ((∀ r ∈ σ.tables.refreshTokens.rows,
        ∃! a, a ∈ σ.tables.accessTokens.rows ∧ a.refreshTokenId = r.id) ∧
      ∀ a ∈ σ.tables.accessTokens.rows,
        ∃! r, r ∈ σ.tables.refreshTokens.rows ∧ r.id = a.refreshTokenId) ∧
    (σ.tables.refreshTokens.rows =
        (live σ.stored).map (fun p ↦ Store.Tables.refreshRow p.1 p.2.refreshTokenId) ∧
      σ.tables.accessTokens.rows =
        (live σ.stored).map
          fun p ↦ Store.Tables.accessRow p.1 p.2.refreshTokenId p.2.accessTokenId) ∧
    (∀ p, p ∈ live σ.stored ↔ p ∈ σ.stored ∧
      ∀ q ∈ σ.stored, q.1.supersedes ≠ some p.2.refreshTokenId) ∧
    (live σ.stored).length = σ.threads.countP (·.granted) ∧
    ∀ e, ¬ e.putsPair → ¬ e.deletes →
      (∀ i o th, e = .ask i o → (σ.step env lifetimes e).threads[i]? = some th → ¬ th.granted) →
      (live (σ.step env lifetimes e).stored).length = (live σ.stored).length := by
  intro σ
  have h : σ.Conserved env lifetimes := (Conserved.start hi hr ha).resume hput hdel
  refine ⟨h.holds.one_to_one h.integrity, ⟨h.holds.refreshRows, h.holds.accessRows⟩, ?_, h.granted,
    fun e hp hd hnot ↦ ?_⟩
  · intro p
    exact Store.mem_live
  · rw [(h.step hp hd).granted, σ.countP_granted_step hnot, h.granted]

/-- A user obtains a pair, and it is replaced while another grant to the user fails half way. -/
def failing : List Event :=
  [.administer (.createUser "ann" "secret") {},
    .arrive none { grantType := "password", username := some "ann", password := some "secret" },
    .arrive none { grantType := "password", username := some "ann", password := some "secret" },
    .arrive none { grantType := "refresh_token", refreshToken := some "a" }] ++
  List.replicate 6 (.ask 0 {}) ++
  (List.replicate 5 [.ask 1 {}, .ask 2 {}]).flatten ++
  [.ask 1 { pair := fun step ↦ if step = .addAccess then some .closed else none }] ++
  List.replicate 2 (.ask 2 {})

/-- Two pairs have been stored and one is left. -/
theorem pairs_conserved_failing :
    let σ := (System.on {}).resume .counting ⟨60, 3600⟩ failing
    (∀ e ∈ failing, ¬ e.putsPair) ∧ (∀ e ∈ failing, ¬ e.deletes) ∧ σ.stored.length = 2 ∧
      (live σ.stored).length = 1 ∧
      ∀ r ∈ σ.tables.refreshTokens.rows,
        ∃! a, a ∈ σ.tables.accessTokens.rows ∧ a.refreshTokenId = r.id := by
  intro σ
  have hput : ∀ e ∈ failing, ¬ e.putsPair := by decide
  have hdel : ∀ e ∈ failing, ¬ e.deletes := by decide
  obtain ⟨⟨hone, -⟩, -, -, hlive, -⟩ :=
    pairs_conserved .counting ⟨60, 3600⟩ {} failing .empty rfl rfl hput hdel
  have hgranted : σ.threads.countP (·.granted) = 1 := by decide +kernel
  exact ⟨hput, hdel, by decide +kernel, hlive.trans hgranted, hone⟩

end System

end TokenMint
