import TokenMint.Proofs.Store.Grants
import TokenMint.Proofs.System.Footprint

/-! # What an access token may do

The scopes of an access token are told with it, and are read back from the store as long as it has a
row.  Between the two anything may happen: scopes are added and deleted, and added again under their
old names, other pairs are issued, and pairs are replaced.  None of this gives the token a scope that
it has not been told with, and only the deletion of a scope takes one from it. -/

namespace TokenMint

open Store (Account Database Grants Ledger TableName Tables)

/-- The grants go on with every line of the log. -/
theorem Entry.Tells.grants {x : Entry} {t t' : Tables} {l : List (NewPair × IssuedPair)}
    {d : List (TableName × Int)} (hx : x.Tells t t') (h : Grants t l d) (hi : t.Integrity)
    (ha : Account t l d) (hl : Ledger t l) :
    Grants t' (l ++ x.stored?.toList) (d ++ x.deleted?.toList) := by
  cases hx with
  | idle t hs hd =>
    rw [hs, hd]
    simpa using h
  | addUser ht =>
    obtain ⟨-, -, rfl⟩ := Tables.addUser_eq_ok ht
    change Grants _ (l ++ []) (d ++ [])
    rw [List.append_nil, List.append_nil]
    exact h.congr rfl rfl rfl
  | addClient ht =>
    obtain ⟨-, -, rfl⟩ := Tables.addClient_eq_ok ht
    change Grants _ (l ++ []) (d ++ [])
    rw [List.append_nil, List.append_nil]
    exact h.congr rfl rfl rfl
  | addScope ht => simpa [Entry.stored?, Entry.deleted?] using h.addScope hi ht
  | remove t n id =>
    rw [show (Entry.act (.delete n id) _).stored? = none from rfl, Option.toList_none,
      List.append_nil]
    refine h.remove hi n id fun y ↦ ?_
    rw [List.mem_append, Entry.deleted?_delete, Tables.count_remove_pos]
  | store hs ht =>
    rw [hs, Entry.deleted?_of_stored? hs, Option.toList_none, List.append_nil]
    exact h.stores hi ha hl ht

namespace System

variable {env : Surroundings} {lifetimes : Lifetimes} {σ : System}

/-- The log of a run also tells which scopes the access tokens have. -/
structure Granted (env : Surroundings) (lifetimes : Lifetimes) (σ : System) : Prop
    extends σ.Accounted env lifetimes where
  grants : Grants σ.tables σ.stored σ.deletions

namespace Granted

theorem step (h : σ.Granted env lifetimes) (e : Event) :
    (σ.step env lifetimes e).Granted env lifetimes := by
  refine { h.toAccounted.step e with grants := ?_ }
  rcases σ.step_tells env lifetimes e with ⟨hlog, htables⟩ | ⟨x, hlog, hx⟩
  · rw [htables, stored, deletions, hlog]
    exact h.grants
  · rw [stored, deletions, hlog, filterMap_concat, filterMap_concat]
    exact hx.grants h.grants h.integrity h.account h.ledger

theorem resume (h : σ.Granted env lifetimes) (events : List Event) :
    (σ.resume env lifetimes events).Granted env lifetimes :=
  resume_induction (P := (Granted env lifetimes ·)) (A := fun _ ↦ True) h
    (fun _ e _ h ↦ h.step e) events fun _ _ ↦ trivial

theorem run (env : Surroundings) (lifetimes : Lifetimes) (events : List Event) :
    (System.run env lifetimes events).Granted env lifetimes :=
  resume { Accounted.start .empty rfl rfl with grants := .empty _ } events

variable {p : NewPair × IssuedPair}

/-- The row of an access token is that of the pair stored under its number. -/
theorem token_eq (h : σ.Granted env lifetimes) (hp : p ∈ σ.stored) {a : Store.AccessRow}
    (ha : a ∈ σ.tables.accessTokens.rows) (hid : a.id = p.2.accessTokenId) :
    a.token = p.1.accessToken := by
  obtain ⟨q, hq, rfl⟩ := h.ledger.accessRows a ha
  obtain rfl := h.account.eq_of_accessTokenId hq hp hid
  rfl

/-- The name of a scope is read for an access token if the scope has been granted with it. -/
theorem name_mem_scopesOf (h : σ.Granted env lifetimes) (hp : p ∈ σ.stored)
    (hrow : p.2.accessTokenId ∈ σ.tables.ids .accessTokens) {s : Scope}
    (hs : s ∈ σ.tables.scopes.rows) :
    s.name ∈ σ.tables.scopesOf p.2.accessTokenId ↔ s ∈ p.2.scopes := by
  rw [← h.grants.links p hp hrow s hs, Tables.mem_scopesOf]
  constructor
  · rintro ⟨r, hr, hl, hname⟩
    exact h.integrity.scopes.eq_of_key hr hs hname ▸ hl
  · exact fun hl ↦ ⟨s, hs, hl, rfl⟩

end Granted

/-- An access token never gains rights.  Whatever happens after a request has been answered with a
pair, as long as there is a row with the number of the access token, it is the row of that token,
and the scopes read for it are those that it has been issued with, without those that have been
deleted; what has been deleted is what has no row any more.  Of the scopes that there are then, it
has those that it has been issued with, and none that has been added since, under whatever name. -/
theorem access_token_gains_nothing (env : Surroundings) (lifetimes : Lifetimes)
    (events : List Event) :
    let σ := run env lifetimes events
    ∀ i th res, σ.threads[i]? = some th → th.answer? = some (.ok res) →
      ∃ p, σ.Obtains i p ∧ p.2.accessTokenId = res.id ∧
        res.scope = Text.join " " (p.2.scopes.map (·.name)) ∧
        ∀ after,
          let τ := σ.resume env lifetimes after
          let names := (p.2.scopes.filter fun s ↦ (.scopes, s.id) ∉ τ.deletions).map (·.name)
          res.id ∈ τ.tables.ids .accessTokens →
            (∀ a ∈ τ.tables.accessTokens.rows, a.id = res.id → a.token = res.accessToken) ∧
            τ.tables.scopesOf res.id = names ∧
            (τ.service.database.closed = false →
              Database.scopesOf res.id τ.service.database = .ok names) ∧
            (∀ s ∈ p.2.scopes, (.scopes, s.id) ∈ τ.deletions ↔ s ∉ τ.tables.scopes.rows) ∧
            ∀ s ∈ τ.tables.scopes.rows, (s.name ∈ names ↔ s ∈ p.2.scopes) ∧
              (σ.tables.last .scopes < s.id → s.name ∉ names) := by
  intro σ i th res hth hdone
  have h : σ.Granted env lifetimes := .run env lifetimes events
  obtain ⟨t, pair, now, issued, hturns, -, rfl⟩ := h.issued hth hdone
  have hp : σ.Obtains i (pair, issued) := by
    rw [Obtains, ← mem_turns, hturns]
    simp [Endpoint.issuing]
  refine ⟨(pair, issued), hp, rfl, rfl, fun after ↦ ?_⟩
  intro τ names hrow
  have h' : τ.Granted env lifetimes := h.resume after
  have hp' : (pair, issued) ∈ τ.stored := (resume_stored after).subset hp.mem_stored
  have hnames : τ.tables.scopesOf issued.accessTokenId = names :=
    h'.grants.scopesOf_eq h'.integrity hp' hrow
  refine ⟨fun a ha hid ↦ h'.token_eq hp' ha hid, hnames, fun hopen ↦ ?_, fun s hs ↦ ?_,
    fun s hs ↦ ?_⟩
  · have hτ : τ = run env lifetimes (events ++ after) := (run_append events after).symm
    have hr : τ.service.database.Ready := by
      rw [hτ] at hopen ⊢
      exact run_ready hopen
    have hread : Database.scopesOf issued.accessTokenId τ.service.database =
        .ok (τ.tables.scopesOf issued.accessTokenId) := by
      simp [Database.scopesOf, hr.require, bind, Except.bind, pure, Except.pure, tables]
    rw [hnames] at hread
    exact hread
  · rw [h'.grants.rows _ hp' s hs, Decidable.not_not]
  · have hiff : s.name ∈ names ↔ s ∈ issued.scopes := hnames ▸ h'.name_mem_scopesOf hp' hrow hs
    refine ⟨hiff, fun hlate hmem ↦ ?_⟩
    have hcounted : s.id ≤ σ.tables.last .scopes :=
      h.grants.counted _ hp.mem_stored s (hiff.mp hmem)
    exact absurd hcounted (Int.not_le.mpr hlate)

/-- A user obtains a pair with one scope. -/
def oneScope : List Event :=
  [.administer (.createUser "ann" "secret") {}, .administer (.createScope "read" true) {},
    .arrive none { grantType := "password", username := some "ann", password := some "secret" }] ++
  List.replicate 6 (.ask 0 {})

/-- Another scope is added; then the first one is deleted and added again, and the user obtains a
second pair with it.  The first pair keeps its scope until the deletion and has none afterwards. -/
theorem access_token_gains_nothing_namesake :
    let σ := run .counting ⟨60, 3600⟩ oneScope
    let τ := σ.resume .counting ⟨60, 3600⟩ [.administer (.createScope "write" true) {}]
    let τ' := σ.resume .counting ⟨60, 3600⟩ <|
      [.administer (.delete .scopes 1) {}, .administer (.createScope "read" true) {},
        .arrive none
          { grantType := "password", username := some "ann", password := some "secret" }] ++
      List.replicate 6 (.ask 1 {})
    ∃ th res, σ.threads[0]? = some th ∧ th.answer? = some (.ok res) ∧ res.scope = "read" ∧
      res.id ∈ τ.tables.ids .accessTokens ∧ res.id ∈ τ'.tables.ids .accessTokens ∧
        τ.tables.scopesOf res.id = ["read"] ∧
          ∃ s ∈ τ'.tables.scopes.rows, s.name = "read" ∧ σ.tables.last .scopes < s.id ∧
            s.name ∉ τ'.tables.scopesOf res.id ∧ τ'.tables.scopesOf 2 = [s.name] := by
  intro σ τ τ'
  have hanswer : σ.threads[0]?.bind (·.answer?) =
      some (.ok ⟨1, "aa", 60, "Bearer", "read", "a"⟩) := by decide +kernel
  obtain ⟨th, hth, hdone⟩ := Option.bind_eq_some_iff.mp hanswer
  have hrow : (1 : Int) ∈ τ.tables.ids .accessTokens := by decide +kernel
  have hrow' : (1 : Int) ∈ τ'.tables.ids .accessTokens := by decide +kernel
  have hread : (⟨2, "read", true⟩ : Scope) ∈ τ'.tables.scopes.rows := by decide +kernel
  have hlast : σ.tables.last .scopes < 2 := by decide +kernel
  obtain ⟨p, -, -, -, hkeeps⟩ :=
    access_token_gains_nothing .counting ⟨60, 3600⟩ oneScope 0 th _ hth hdone
  obtain ⟨-, hnames, -, -, hscopes⟩ := hkeeps _ hrow'
  refine ⟨th, _, hth, hdone, rfl, hrow, hrow', by decide +kernel, _, hread, rfl, hlast, ?_,
    by decide +kernel⟩
  change _ ∉ τ'.tables.scopesOf 1
  rw [hnames]
  exact (hscopes _ hread).2 hlast

end System

end TokenMint
