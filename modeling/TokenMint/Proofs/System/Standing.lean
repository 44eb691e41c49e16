import TokenMint.Proofs.System.History
import TokenMint.Proofs.System.SingleUse

/-! # How a stored pair stands

In a run of requests whose tokens are all different, a refresh token says which pair is meant.  So
what has become of a pair can be told from what requests have been answered and administrators have
deleted: its rows are there unless its refresh token has been exchanged, or something has been
deleted on which they stand. -/

namespace TokenMint

open Store (Account Database Tables mem_superseded superseded)

namespace System

variable {env : Surroundings} {lifetimes : Lifetimes} {σ : System}

/-- A request has been answered with the tokens of a stored pair. -/
def Answers (lifetimes : Lifetimes) (σ : System) (i : Nat) (p : NewPair × IssuedPair) : Prop :=
  σ.Obtains i p ∧ ∃ th, σ.threads[i]? = some th ∧
    th.answer? = some (.ok (p.2.response lifetimes p.1))

theorem Recorded.answers_iff (h : σ.Recorded env lifetimes) {i : Nat} {p : NewPair × IssuedPair} :
    σ.Answers lifetimes i p ↔ σ.Obtains i p := by
  constructor
  · rintro ⟨hp, -⟩
    exact hp
  · intro hp
    obtain ⟨th, -, -, hth, -, -, hdone⟩ := h.concluded hp
    exact ⟨hp, th, hth, hdone⟩

/-- Both tokens of a pair have their rows. -/
def Stands (σ : System) (p : NewPair × IssuedPair) : Prop :=
  Tables.refreshRow p.1 p.2.refreshTokenId ∈ σ.tables.refreshTokens.rows ∧
    Tables.accessRow p.1 p.2.refreshTokenId p.2.accessTokenId ∈ σ.tables.accessTokens.rows

/-- Requests have asked for every pair, all tokens are different, and the account is kept. -/
structure Settled (env : Surroundings) (lifetimes : Lifetimes) (σ : System) : Prop
    extends σ.Orderly env lifetimes, σ.Accounted env lifetimes

theorem Obtains.mem_superseded {i : Nat} {p : NewPair × IssuedPair} (h : σ.Obtains i p) {id : Int}
    (hsup : p.1.supersedes = some id) : id ∈ superseded σ.stored :=
  Store.mem_superseded.mpr ⟨p, h.mem_stored, hsup⟩

/-- What has been replaced stays so. -/
theorem superseded_of_log {σ' : System} {l : List Entry} {id : Int} (hlog : σ'.log = σ.log ++ l)
    (h : id ∈ superseded σ.stored) : id ∈ superseded σ'.stored := by
  obtain ⟨q, hq, hsup⟩ := mem_superseded.mp h
  refine mem_superseded.mpr ⟨q, ?_, hsup⟩
  rw [System.stored, hlog, List.filterMap_append]
  exact List.mem_append_left _ hq

namespace Settled

theorem run {events : List Event} (htoken : Function.Injective env.token)
    (hown : ∀ e ∈ events, ¬ e.putsPair) : (System.run env lifetimes events).Settled env lifetimes :=
  { Accounted.run env lifetimes events with own := run_own hown, distinct := htoken }

variable {p : NewPair × IssuedPair}

theorem exists_answers (h : σ.Settled env lifetimes) (hp : p ∈ σ.stored) :
    ∃ i, σ.Answers lifetimes i p := by
  obtain ⟨i, hi⟩ := h.exists_turn hp
  exact ⟨i, h.answers_iff.mpr hi⟩

/-- What is replaced, a request has replaced. -/
theorem exists_superseding (h : σ.Settled env lifetimes) {id : Int}
    (hmem : id ∈ superseded σ.stored) :
    ∃ (i : Nat) (q : NewPair × IssuedPair), σ.Obtains i q ∧ q.1.supersedes = some id := by
  obtain ⟨q, hq, hsup⟩ := mem_superseded.mp hmem
  obtain ⟨i, hi⟩ := h.exists_turn hq
  exact ⟨i, q, hi, hsup⟩

/-- A request that replaces a pair exchanges its refresh token. -/
theorem exchanges (h : σ.Settled env lifetimes) (hp : p ∈ σ.stored) {i : Nat}
    {q : NewPair × IssuedPair} (hq : σ.Obtains i q)
    (hsup : q.1.supersedes = some p.2.refreshTokenId) :
    σ.Exchanges i p.1.refreshToken q.1.refreshToken := by
  obtain ⟨th, found, -, hth, hg, hid, hfound, -, -, -, hdone⟩ := h.replaced hq hsup
  obtain ⟨p', hp', htoken, hid'⟩ := h.found i _ found hfound
  obtain rfl := h.account.eq_of_refreshTokenId hp' hp (hid'.trans hid)
  exact ⟨th, _, hth, hg, htoken.symm, hdone, rfl⟩

/-- A refresh token has been exchanged if its pair has been replaced. -/
theorem exchanged_iff (h : σ.Settled env lifetimes) (hp : p ∈ σ.stored) :
    (∃ i new, σ.Exchanges i p.1.refreshToken new) ↔ p.2.refreshTokenId ∈ superseded σ.stored := by
  constructor
  · rintro ⟨i, new, hx⟩
    obtain ⟨q, p', hq, -, hp', htoken, hsup⟩ := h.exchange hx
    obtain rfl := h.eq_of_stored hp' hp htoken
    exact mem_superseded.mpr ⟨q, Obtains.mem_stored hq, hsup⟩
  · intro hmem
    obtain ⟨i, q, hq, hsup⟩ := h.exists_superseding hmem
    exact ⟨i, _, h.exchanges hp hq hsup⟩

/-- The row of a refresh token is there until the token is exchanged or the row deleted. -/
theorem refreshRow_iff (h : σ.Settled env lifetimes) (hp : p ∈ σ.stored) :
    Tables.refreshRow p.1 p.2.refreshTokenId ∈ σ.tables.refreshTokens.rows ↔
      (∀ i new, ¬ σ.Exchanges i p.1.refreshToken new) ∧
        (.refreshTokens, p.2.refreshTokenId) ∉ σ.deletions := by
  rw [h.account.refreshRow p hp, ← h.exchanged_iff hp]
  simp [Store.RefreshRow.anchors, Tables.refreshRow]

/-- The row of an access token is there until its refresh token is exchanged, or the row, its owner
or the refresh token deleted. -/
theorem accessRow_iff (h : σ.Settled env lifetimes) (hp : p ∈ σ.stored) :
    Tables.accessRow p.1 p.2.refreshTokenId p.2.accessTokenId ∈ σ.tables.accessTokens.rows ↔
      (∀ i new, ¬ σ.Exchanges i p.1.refreshToken new) ∧
        (p.1.owner.table, p.1.owner.id) ∉ σ.deletions ∧
          (.refreshTokens, p.2.refreshTokenId) ∉ σ.deletions ∧
            (.accessTokens, p.2.accessTokenId) ∉ σ.deletions := by
  rw [h.account.accessRow p hp, ← h.exchanged_iff hp, Tables.anchors_accessRow]
  simp

/-- A pair has its rows until its refresh token is exchanged, or something is deleted on which they
stand. -/
theorem stands_iff (h : σ.Settled env lifetimes) (hp : p ∈ σ.stored) :
    σ.Stands p ↔
      (∀ i new, ¬ σ.Exchanges i p.1.refreshToken new) ∧
        (.refreshTokens, p.2.refreshTokenId) ∉ σ.deletions ∧
          (.accessTokens, p.2.accessTokenId) ∉ σ.deletions ∧
            (p.1.owner.table, p.1.owner.id) ∉ σ.deletions := by
  rw [Stands, h.refreshRow_iff hp, h.accessRow_iff hp]
  constructor
  · rintro ⟨⟨hx, hr⟩, -, ho, -, ha⟩
    exact ⟨hx, hr, ha, ho⟩
  · rintro ⟨hx, hr, ha, ho⟩
    exact ⟨⟨hx, hr⟩, hx, ho, hr, ha⟩

/-- An access token that goes with a stored refresh token is that of the same pair. -/
theorem eq_accessRow (h : σ.Settled env lifetimes) (hp : p ∈ σ.stored) {a : Store.AccessRow}
    (ha : a ∈ σ.tables.accessTokens.rows) (hid : a.refreshTokenId = p.2.refreshTokenId) :
    a = Tables.accessRow p.1 p.2.refreshTokenId p.2.accessTokenId := by
  obtain ⟨q, hq, rfl⟩ := h.ledger.accessRows a ha
  rw [h.account.eq_of_refreshTokenId hq hp hid]

/-! ## Fresh tokens -/

/-- The tokens of a stored pair have been drawn for it. -/
theorem drawn (h : σ.Settled env lifetimes) {i : Nat} (hp : σ.Obtains i p) :
    .turn i ⟨.freshToken, p.1.refreshToken⟩ ∈ σ.log ∧
      .turn i ⟨.freshToken, p.1.accessToken⟩ ∈ σ.log := by
  obtain ⟨th, t, now, -, hturns, -⟩ := h.entitled hp
  rw [← mem_turns, ← mem_turns, hturns]
  simp [Endpoint.issuing]

/-- A token that is drawn later is not one that has been drawn. -/
theorem fresh_ne (h : σ.Settled env lifetimes) {i n : Nat} {token : String}
    (hmem : .turn i ⟨.freshToken, token⟩ ∈ σ.log) (hn : σ.service.drawn ≤ n) :
    token ≠ env.token n := by
  rintro rfl
  have hdrawn : env.token n ∈ (List.range σ.service.drawn).map env.token := by
    rw [← h.fresh]
    exact List.mem_filterMap.mpr ⟨_, hmem, rfl⟩
  obtain ⟨m, hm, heq⟩ := List.mem_map.mp hdrawn
  have := h.distinct heq
  have := List.mem_range.mp hm
  omega

/-- What replaces a pair with rows is accepted, if its tokens are not those of any other. -/
theorem accepts (h : σ.Settled env lifetimes)
    (ha : Tables.accessRow p.1 p.2.refreshTokenId p.2.accessTokenId ∈ σ.tables.accessTokens.rows)
    {new : NewPair} (howner : new.owner = p.1.owner)
    (hfresh : ∀ q ∈ σ.stored, q.1.refreshToken ≠ new.refreshToken ∧
      q.1.accessToken ≠ new.accessToken) :
    (σ.tables.without new.supersedes).Accepts new where
  refreshToken := by
    intro r hr
    obtain ⟨q, hq, rfl⟩ :=
      h.ledger.refreshRows r ((Tables.TokensWithin.without _ _).refreshRows r hr)
    exact (hfresh q hq).1
  accessToken := by
    intro a ha
    obtain ⟨q, hq, rfl⟩ :=
      h.ledger.accessRows a ((Tables.TokensWithin.without _ _).accessRows a ha)
    exact (hfresh q hq).2
  owner := by
    obtain ⟨o, hc, hu, ho⟩ := h.integrity.owner _ ha
    have hsame : o = new.owner := by
      rw [howner]
      exact Owner.columns_inj hc.symm hu.symm
    rw [← hsame]
    cases new.supersedes <;> exact ho

/-! ## Replies -/

/-- The row of a stored pair is found by its token. -/
theorem refreshToken?_eq (h : σ.Settled env lifetimes) (hr : σ.service.database.Ready)
    (hrow : Tables.refreshRow p.1 p.2.refreshTokenId ∈ σ.tables.refreshTokens.rows) :
    Database.refreshToken? p.1.refreshToken σ.service.database =
      .ok (some ⟨p.2.refreshTokenId, p.1.refreshToken, p.1.refreshExpiresAt⟩) :=
  hr.refreshToken?_eq_some h.integrity hrow rfl

/-- So is the access token that goes with it. -/
theorem accessToken?_eq (h : σ.Settled env lifetimes) (hr : σ.service.database.Ready)
    (hrow : Tables.accessRow p.1 p.2.refreshTokenId p.2.accessTokenId ∈
      σ.tables.accessTokens.rows) :
    Database.accessToken? p.2.refreshTokenId σ.service.database =
      .ok (some ⟨p.2.accessTokenId, p.1.accessToken, p.1.accessExpiresAt, p.1.owner.clientId?,
        p.1.owner.userId?, p.2.refreshTokenId⟩) :=
  hr.accessToken?_eq_some h.integrity hrow rfl

theorem accessToken?_eq_none (h : σ.Settled env lifetimes) (hr : σ.service.database.Ready)
    (hp : p ∈ σ.stored)
    (hno : Tables.accessRow p.1 p.2.refreshTokenId p.2.accessTokenId ∉
      σ.tables.accessTokens.rows) :
    Database.accessToken? p.2.refreshTokenId σ.service.database = .ok none :=
  hr.accessToken?_eq_none fun _ ha hid ↦ hno (h.eq_accessRow hp ha hid ▸ ha)

/-- In place of a pair with rows another is stored, if its tokens are not those of any other. -/
theorem storePair_replaces (h : σ.Settled env lifetimes) (hr : σ.service.database.Ready)
    (hp : σ.Stands p) {new : NewPair} (howner : new.owner = p.1.owner)
    (hsup : new.supersedes = some p.2.refreshTokenId)
    (hfresh : ∀ q ∈ σ.stored, q.1.refreshToken ≠ new.refreshToken ∧
      q.1.accessToken ≠ new.accessToken) :
    ∃ issued db', σ.service.database.storePair .none new = (.ok issued, db') := by
  refine hr.storePair_of_accepts h.integrity ?_ (h.accepts hp.2 howner hfresh)
  rintro id hid
  rw [Option.mem_def, hsup, Option.some_inj] at hid
  rw [← hid]
  exact List.mem_map.mpr ⟨_, hp.1, rfl⟩

end Settled

end System

end TokenMint
