import TokenMint.Proofs.Store.Scopes
import TokenMint.Proofs.System.Footprint
import TokenMint.Proofs.System.Principal

/-! # The response and the store

A response is put together from the tokens that were drawn before the transaction, from the number
that came out of it, and from the scopes that were read in the middle of it.  The store is written
row by row, and what it holds is read back through other queries.  Both say the same of the new
pair: its tokens, its owner, its lifetimes to the nanosecond, and its scopes in their order. -/

namespace TokenMint

open Store (AccessRow Database RefreshRow Tables)

/-- What the store holds of a pair is what its holder has been told. -/
structure Agrees (lifetimes : Lifetimes) (owner : Owner) (now : Instant) (res : TokenResponse)
    (db : Database) (a : AccessRow) (r : RefreshRow) : Prop where
  access : db.tables.accessTokens.rows.filter (·.id = res.id) = [a]
  refresh : db.tables.refreshTokens.rows.filter (·.token = res.refreshToken) = [r]
  partner : a.refreshTokenId = r.id
  token : a.token = res.accessToken
  owner : a.owner? = some owner
  lasts : ∃ x y, a.expiry.instant? = some x ∧ r.expiry.instant? = some y ∧
    x.since now = res.expiresIn * Instant.nanosPerSecond ∧
      y.since x = (lifetimes.refresh - lifetimes.access) * Instant.nanosPerSecond
  scopes : ∃ names, Database.scopesOf res.id db = .ok names ∧ res.scope = Text.join " " names ∧
    Tables.Ascending names ∧
      ∀ s, s ∈ names ↔ ∃ row ∈ db.tables.scopes.rows, row.isDefault ∧ row.name = s

/-- Whatever list of the default scopes is in order, it is what is told and what is read back. -/
theorem Agrees.scopes_eq {lifetimes : Lifetimes} {owner : Owner} {now : Instant}
    {res : TokenResponse} {db : Database} {a : AccessRow} {r : RefreshRow}
    (h : Agrees lifetimes owner now res db a r) {names : List String}
    (hnames : Tables.Ascending names)
    (hmem : ∀ s, s ∈ names ↔ ∃ row ∈ db.tables.scopes.rows, row.isDefault ∧ row.name = s) :
    Database.scopesOf res.id db = .ok names ∧ res.scope = Text.join " " names := by
  obtain ⟨l, hread, hjoin, hl, hlmem⟩ := h.scopes
  obtain rfl := hl.eq_of_mem_iff hnames fun s ↦ (hlmem s).trans (hmem s).symm
  exact ⟨hread, hjoin⟩

/-- What is read back of a new access token, if it can be, is the list that it has been issued
with. -/
theorem Store.Tables.Stores.read_scopes {t : Tables} {db : Database} {pair : NewPair}
    {issued : IssuedPair} (h : t.Stores pair issued db.tables) (hi : t.Integrity) (hr : db.Ready) :
    Database.scopesOf issued.accessTokenId db = .ok (issued.scopes.map (·.name)) := by
  rw [← h.scopesOf_eq hi]
  simp [Database.scopesOf, hr.require, bind, Except.bind, pure, Except.pure]

/-- A stored pair and the response made of it agree. -/
theorem Store.Tables.Stores.agrees {t : Tables} {db : Database} {lifetimes : Lifetimes}
    {pair : NewPair} {issued : IssuedPair} {now : Instant} (h : t.Stores pair issued db.tables)
    (hi : t.Integrity) (hr : db.Ready)
    (hpair : pair = Endpoint.pairAt lifetimes pair.owner pair.supersedes now pair.refreshToken
      pair.accessToken) :
    ∃ a r, Agrees lifetimes pair.owner now (issued.response lifetimes pair) db a r := by
  have hi' := hi.stores h
  have haccess := h.mem_accessTokens.mpr (.inr rfl)
  have hrefresh := h.mem_refreshTokens.mpr (.inr rfl)
  have hx : pair.accessExpiresAt = now.later lifetimes.access := by
    rw [hpair]
    rfl
  have hy : pair.refreshExpiresAt = now.later lifetimes.refresh := by
    rw [hpair]
    rfl
  refine ⟨_, _, filter_key hi'.accessTokens.ids haccess, filter_key hi'.refreshTokens.keys hrefresh,
    rfl, rfl, Owner.ofColumns?_columns _, ?_, ?_⟩
  · refine ⟨pair.accessExpiresAt, pair.refreshExpiresAt, rfl, rfl, ?_, ?_⟩
    · have hnow : now.later 0 = now := by simp [Instant.later]
      have hsince := Instant.later_since now lifetimes.access 0
      rw [hnow, Int.sub_zero] at hsince
      rw [hx]
      exact hsince
    · rw [hx, hy]
      exact Instant.later_since ..
  · refine ⟨issued.scopes.map (·.name), ?_, rfl, ?_, ?_⟩
    · exact h.read_scopes hi hr
    · rw [h.scopes_eq]
      exact hi.ascending_defaultScopes
    · intro s
      simp [h.scopes_eq, Tables.mem_defaultScopes, h.principals_eq.2.2, and_assoc]

/-- A pair that is issued agrees with its response. -/
theorem Service.issue_agrees {env : Surroundings} {lifetimes : Lifetimes} {s s' : Service}
    (hr : s.database.Ready) (hi : s.database.tables.Integrity) {owner : Owner}
    {supersedes : Option Int} {o : Outage} {res : TokenResponse}
    (hissue : (Endpoint.issue lifetimes owner supersedes).run (answer env o) s = (.ok res, s')) :
    ∃ a r, Agrees lifetimes owner (env.clock s.readings) res s'.database a r := by
  rw [run_issue] at hissue
  rcases hstore : s.database.storePair o.pair (s.drawnPair env lifetimes owner supersedes) with
    ⟨f | issued, db'⟩
  · simp only [hstore, Endpoint.conclude] at hissue
    cases hissue
  · simp only [hstore, Endpoint.conclude] at hissue
    cases hissue
    obtain ⟨-, t', hstores, rfl⟩ := Database.storePair_eq_ok hstore
    have hstored : s.database.tables.Stores _ issued
        ({ s.database with tables := t' } : Database).tables := hstores
    exact hstored.agrees hi (hr.withTables t') rfl

namespace System

variable {env : Surroundings} {lifetimes : Lifetimes} {σ : System}

/-- A request that succeeds among others agrees with its response at once. -/
theorem Recorded.ask_agrees (h : σ.Recorded env lifetimes) (hr : σ.service.database.Ready)
    {i : Nat} {th th' : Thread} {o : Outage} {res : TokenResponse}
    (hth : σ.threads[i]? = some th) (hasks : th.answer? = none)
    (hth' : (σ.step env lifetimes (.ask i o)).threads[i]? = some th')
    (hdone : th'.answer? = some (.ok res)) :
    ∃ t pair now issued, (σ.step env lifetimes (.ask i o)).turns i =
        t ++ Endpoint.issuing pair now (.ok issued) ∧
      Endpoint.Entitles th'.basic th'.request t pair.owner pair.supersedes ∧
        ∃ a r, Agrees lifetimes pair.owner now res
          (σ.step env lifetimes (.ask i o)).service.database a r := by
  have h' := h.step (.ask i o)
  obtain ⟨th'', hth'', -, -, hok, -⟩ := h.ask_stores hth hasks o
  rw [hth'] at hth''
  cases hth''
  obtain ⟨p, hp, hstores, rfl⟩ := hok res hdone
  obtain ⟨th'', t, now, hth'', hturns, he, -⟩ := h'.concluded hp
  rw [hth'] at hth''
  cases hth''
  refine ⟨t, p.1, now, p.2, hturns, he, hstores.agrees h.integrity ?_ ?_⟩
  · obtain ⟨tables, hdb⟩ := σ.ask_database i o
    rw [hdb]
    exact hr.withTables tables
  · have hleads := h'.leads i th' hth'
    rw [hturns, Thread.answer?_eq_some.mp hdone] at hleads
    exact (Endpoint.leads_token hleads).pair_eq

/-- The token response and the store agree.  Whenever a pair is issued at an open store, whoever it
is for and whatever it replaces, the store holds one access token under the number that is told, with
the value and for the owner that it has been issued for, and the refresh token that is told goes with
it; both expire when the response and the lifetimes say, counted from the instant of issuing; and the
scopes that are told are those that are read back, the names of all default scopes in the order of
their bytes, which is one list whatever order they have been added in.  The same holds of a request
among others, right after the turn by which it succeeds. -/
theorem response_agrees_with_store (env : Surroundings) (lifetimes : Lifetimes)
    (events : List Event)
    (hopen : (run env lifetimes events).service.database.closed = false) :
    let σ := run env lifetimes events
    (∀ owner supersedes o res s',
      (Endpoint.issue lifetimes owner supersedes).run (Service.answer env o) σ.service =
        (.ok res, s') →
      (∃ a r, Agrees lifetimes owner (env.clock σ.service.readings) res s'.database a r) ∧
        ∀ names, Tables.Ascending names →
          (∀ s, s ∈ names ↔
            ∃ row ∈ s'.database.tables.scopes.rows, row.isDefault ∧ row.name = s) →
          Database.scopesOf res.id s'.database = .ok names ∧ res.scope = Text.join " " names) ∧
    ∀ i o th th' res, σ.threads[i]? = some th → th.answer? = none →
      (σ.step env lifetimes (.ask i o)).threads[i]? = some th' → th'.answer? = some (.ok res) →
      ∃ t pair now issued,
        (σ.step env lifetimes (.ask i o)).turns i =
          t ++ Endpoint.issuing pair now (.ok issued) ∧
        Endpoint.Entitles th'.basic th'.request t pair.owner pair.supersedes ∧
        ∃ a r, Agrees lifetimes pair.owner now res
          (σ.step env lifetimes (.ask i o)).service.database a r := by
  intro σ
  have h : σ.Recorded env lifetimes := .run env lifetimes events
  have hr : σ.service.database.Ready := run_ready hopen
  refine ⟨fun owner supersedes o res s' hissue ↦ ?_, fun i o th th' res hth hasks hth' hdone ↦ ?_⟩
  · obtain ⟨a, r, hagrees⟩ := Service.issue_agrees hr h.integrity hissue
    exact ⟨⟨a, r, hagrees⟩, fun names ↦ hagrees.scopes_eq⟩
  · exact h.ask_agrees hr hth hasks hth' hdone

/-- There are a user, and scopes that have not been added in the order of their names. -/
def unordered : List Event :=
  [.administer (.createUser "ann" "secret") {}, .administer (.createScope "write" true) {},
    .administer (.createScope "admin" false) {}, .administer (.createScope "read" true) {}]

/-- A pair is issued to the user. -/
theorem response_agrees_with_store_unordered :
    let σ := run .counting ⟨60, 3600⟩ unordered
    σ.service.database.closed = false ∧ ∃ res s' a r,
      (Endpoint.issue ⟨60, 3600⟩ (.user 1) none).run (Service.answer .counting {}) σ.service =
        (.ok res, s') ∧
      Agrees ⟨60, 3600⟩ (.user 1) ⟨0, 0⟩ res s'.database a r ∧ res.scope = "read write" ∧
        Database.scopesOf res.id s'.database = .ok ["read", "write"] := by
  intro σ
  have hopen : σ.service.database.closed = false := by decide +kernel
  have hrows : σ.tables.scopes.rows =
      [⟨1, "write", true⟩, ⟨2, "admin", false⟩, ⟨3, "read", true⟩] := by decide +kernel
  let pair := σ.service.drawnPair .counting ⟨60, 3600⟩ (.user 1) none
  have haccepts : σ.tables.Accepts pair :=
    ⟨by decide +kernel, by decide +kernel, ⟨⟨1, "ann", "secret"⟩, by decide +kernel, rfl⟩⟩
  have hi : σ.tables.Integrity := (Recorded.run .counting ⟨60, 3600⟩ unordered).integrity
  obtain ⟨issued, db, hstore⟩ : ∃ issued db,
      σ.service.database.storePair (Outage.pair {}) pair = (.ok issued, db) :=
    (run_ready hopen).storePair_of_accepts hi nofun haccepts
  have hok : (Endpoint.issue ⟨60, 3600⟩ (.user 1) none).run (Service.answer .counting {}) σ.service =
      (.ok (issued.response ⟨60, 3600⟩ pair), { σ.service with
        database := db, readings := σ.service.readings + 1, drawn := σ.service.drawn + 2 }) := by
    rw [Service.run_issue]
    simp only [pair] at hstore
    simp only [hstore]
    rfl
  obtain ⟨-, t, hstores, rfl⟩ := Database.storePair_eq_ok hstore
  have hscopes : t.scopes = σ.tables.scopes := hstores.principals_eq.2.2
  obtain ⟨hissue, -⟩ := response_agrees_with_store .counting ⟨60, 3600⟩ unordered hopen
  obtain ⟨⟨a, r, hagrees⟩, hnames⟩ := hissue _ _ {} _ _ hok
  refine ⟨hopen, _, _, a, r, hok, hagrees, And.symm (hnames ["read", "write"] ?_ fun s ↦ ?_)⟩
  · decide +kernel
  · change _ ↔ ∃ row ∈ t.scopes.rows, _
    rw [hscopes, hrows]
    simp [or_comm, @eq_comm _ s]

end System

end TokenMint
