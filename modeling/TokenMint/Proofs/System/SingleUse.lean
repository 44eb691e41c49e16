import Mathlib.Logic.Relation
import TokenMint.Proofs.System.Dialogue

/-! # Refresh tokens are used once

Any number of requests may have found the same refresh token before one of them replaces it.  What
decides is the row: a pair is stored in place of a row that is there, and no row comes back.  So of
all requests that present a token one at most succeeds, and the tokens that come out of each other
form a chain, of which only the last can be alive. -/

namespace TokenMint

/-- Whether an event stores a pair that no request has asked for. -/
def Event.putsPair : Event → Bool
  | .administer (.storePair _) _ => true
  | _ => false

namespace System

variable {env : Surroundings} {lifetimes : Lifetimes} {σ : System}

/-! ## Exchanges -/

/-- A request has presented one refresh token and been answered with another. -/
def Exchanges (σ : System) (i : Nat) (old new : String) : Prop :=
  ∃ th res, σ.threads[i]? = some th ∧ th.request.grantType = GrantType.refreshToken.name ∧
    th.request.refreshToken.getD "" = old ∧ th.answer? = some (.ok res) ∧ res.refreshToken = new

/-- A request has been answered with a refresh token after presenting a secret. -/
def Starts (σ : System) (i : Nat) (token : String) : Prop :=
  ∃ th res, σ.threads[i]? = some th ∧
    th.request.grantType ∈ [GrantType.password.name, GrantType.clientCredentials.name] ∧
      th.answer? = some (.ok res) ∧ res.refreshToken = token

/-- The refresh tokens that go back to the answer of one request. -/
inductive Lineage (σ : System) (i : Nat) : String → Prop
  | start {token : String} (h : σ.Starts i token) : Lineage σ i token
  | rotate {old new : String} {j : Nat} (h : Lineage σ i old) (hx : σ.Exchanges j old new) :
    Lineage σ i new

/-! ## Runs of requests alone -/

/-- Every pair in the store has been asked for by a request, and no token is drawn twice. -/
structure Orderly (env : Surroundings) (lifetimes : Lifetimes) (σ : System) : Prop
    extends σ.Recorded env lifetimes where
  own : ∀ pair r, .act (.storePair pair) r ∉ σ.log
  distinct : Function.Injective env.token

theorem run_own {events : List Event} (h : ∀ e ∈ events, ¬ e.putsPair) (pair : NewPair)
    (r : Except PairFault IssuedPair) :
    .act (.storePair pair) r ∉ (run env lifetimes events).log := by
  refine run_induction (P := fun σ ↦ .act (.storePair pair) r ∉ σ.log)
    (A := fun e ↦ ¬ e.putsPair) List.not_mem_nil ?_ events h
  intro σ e he hσ
  cases e with
  | arrive basic request => exact hσ
  | ask i o =>
    rcases σ.step_ask i o with hstep | ⟨basic, request, c, next, -, hstep⟩
    · rw [hstep]
      exact hσ
    · rw [hstep]
      simpa using hσ
  | administer a o =>
    intro hmem
    rcases List.mem_append.mp hmem with hmem | hmem
    · exact hσ hmem
    · rw [List.mem_singleton, Entry.act.injEq] at hmem
      exact he (hmem.1 ▸ rfl)

namespace Orderly

variable {i j : Nat}

theorem exists_turn (h : σ.Orderly env lifetimes) {p : NewPair × IssuedPair} (hp : p ∈ σ.stored) :
    ∃ i, .turn i ⟨.storePair p.1, .ok p.2⟩ ∈ σ.log := by
  rcases mem_stored.mp hp with hi | hact
  · exact hi
  · exact absurd hact (h.own p.1 _)

/-- A token is drawn for one request only. -/
theorem eq_of_fresh (h : σ.Orderly env lifetimes) {token : String}
    (hi : .turn i ⟨.freshToken, token⟩ ∈ σ.log) (hj : .turn j ⟨.freshToken, token⟩ ∈ σ.log) :
    i = j := by
  have hnodup : (σ.log.filterMap Entry.fresh?).Nodup := by
    rw [h.fresh]
    exact List.nodup_range.map h.distinct
  have heq := Store.eq_of_nodup_filterMap hnodup hi hj rfl rfl
  exact (Entry.turn.inj heq).1

/-- A refresh token is stored once, and by one request. -/
theorem eq_of_refreshToken (h : σ.Orderly env lifetimes) {p q : NewPair × IssuedPair}
    (hp : .turn i ⟨.storePair p.1, .ok p.2⟩ ∈ σ.log)
    (hq : .turn j ⟨.storePair q.1, .ok q.2⟩ ∈ σ.log)
    (heq : p.1.refreshToken = q.1.refreshToken) : i = j ∧ p = q := by
  obtain ⟨_, t, now, -, hturns, he⟩ := h.entitled hp
  obtain ⟨_, t', now', -, hturns', -⟩ := h.entitled hq
  have hi : .turn i ⟨.freshToken, p.1.refreshToken⟩ ∈ σ.log := by
    rw [← mem_turns, hturns]
    simp [Endpoint.issuing]
  have hj : .turn j ⟨.freshToken, q.1.refreshToken⟩ ∈ σ.log := by
    rw [← mem_turns, hturns']
    simp [Endpoint.issuing]
  rw [heq] at hi
  obtain rfl := h.eq_of_fresh hi hj
  have hmem := mem_turns.mpr hq
  rw [hturns] at hmem
  obtain ⟨hpair, hissued⟩ := he.eq_of_mem hmem
  exact ⟨rfl, Prod.ext hpair.symm (Except.ok.inj hissued).symm⟩

/-- Stored pairs with the same refresh token are the same. -/
theorem eq_of_stored (h : σ.Orderly env lifetimes) {p q : NewPair × IssuedPair}
    (hp : p ∈ σ.stored) (hq : q ∈ σ.stored) (heq : p.1.refreshToken = q.1.refreshToken) :
    p = q := by
  obtain ⟨i, hi⟩ := h.exists_turn hp
  obtain ⟨j, hj⟩ := h.exists_turn hq
  exact (h.eq_of_refreshToken hi hj heq).2

/-- An exchange has stored a pair in place of the one with the presented token. -/
theorem exchange (h : σ.Orderly env lifetimes) {old new : String} (hx : σ.Exchanges i old new) :
    ∃ p q : NewPair × IssuedPair, .turn i ⟨.storePair p.1, .ok p.2⟩ ∈ σ.log ∧
      p.1.refreshToken = new ∧ q ∈ σ.stored ∧ q.1.refreshToken = old ∧
        p.1.supersedes = some q.2.refreshTokenId := by
  obtain ⟨th, res, hth, hgrant, rfl, hdone, rfl⟩ := hx
  obtain ⟨q, hq, p, hp, htoken, hsup, rfl⟩ := h.refreshed hth hgrant hdone
  exact ⟨p, q, hp, rfl, hq, htoken, hsup⟩

/-- Of all requests that present a refresh token, one at most succeeds. -/
theorem exchange_unique (h : σ.Orderly env lifetimes) {old new new' : String}
    (hi : σ.Exchanges i old new) (hj : σ.Exchanges j old new') : i = j ∧ new = new' := by
  obtain ⟨p, q, hp, rfl, hq, rfl, hsup⟩ := h.exchange hi
  obtain ⟨p', q', hp', rfl, hq', hold, hsup'⟩ := h.exchange hj
  obtain rfl := h.eq_of_stored hq hq' hold.symm
  obtain rfl := h.ledger.eq_of_supersedes (mem_stored.mpr (.inl ⟨i, hp⟩))
    (mem_stored.mpr (.inl ⟨j, hp'⟩)) hsup hsup'
  exact ⟨(h.eq_of_refreshToken hp hp' rfl).1, rfl⟩

/-- A refresh token that has been exchanged has no row. -/
theorem exchanged_gone (h : σ.Orderly env lifetimes) {old new : String}
    (hx : σ.Exchanges i old new) : ∀ r ∈ σ.tables.refreshTokens.rows, r.token ≠ old := by
  intro r hr htoken
  obtain ⟨p, q, hp, -, hq, hold, hsup⟩ := h.exchange hx
  obtain ⟨q', hq', rfl⟩ := h.ledger.refreshRows r hr
  obtain rfl := h.eq_of_stored hq hq' (hold.trans htoken.symm)
  exact (h.ledger.gone p (mem_stored.mpr (.inl ⟨i, hp⟩)) _ hsup).2 _ hr rfl

/-! ## Lineages -/

theorem lineage_chain {token : String} (h : σ.Lineage i token) :
    ∃ first, σ.Starts i first ∧
      Relation.ReflTransGen (fun old new ↦ ∃ j, σ.Exchanges j old new) first token := by
  induction h with
  | start h => exact ⟨_, h, .refl⟩
  | rotate h hx ih =>
    obtain ⟨first, hfirst, hchain⟩ := ih
    exact ⟨first, hfirst, hchain.tail ⟨_, hx⟩⟩

theorem starts_unique {first first' : String} (h : σ.Starts i first) (h' : σ.Starts i first') :
    first = first' := by
  obtain ⟨th, res, hth, -, hdone, rfl⟩ := h
  obtain ⟨th', res', hth', -, hdone', rfl⟩ := h'
  rw [hth] at hth'
  cases hth'
  rw [hdone] at hdone'
  cases hdone'
  rfl

/-- Of the tokens of a lineage that have rows, none has gone into another: there is one at most. -/
theorem lineage_live (h : σ.Orderly env lifetimes) {r r' : Store.RefreshRow}
    (hr : r ∈ σ.tables.refreshTokens.rows) (hr' : r' ∈ σ.tables.refreshTokens.rows)
    (hl : σ.Lineage i r.token) (hl' : σ.Lineage i r'.token) : r = r' := by
  refine h.integrity.refreshTokens.eq_of_key hr hr' ?_
  obtain ⟨first, hfirst, hchain⟩ := lineage_chain hl
  obtain ⟨first', hfirst', hchain'⟩ := lineage_chain hl'
  obtain rfl := starts_unique hfirst hfirst'
  have hunique : Relator.RightUnique fun old new ↦ ∃ j, σ.Exchanges j old new := by
    rintro old new new' ⟨j, hj⟩ ⟨k, hk⟩
    exact (h.exchange_unique hj hk).2
  rcases Relation.ReflTransGen.total_of_right_unique hunique hchain hchain' with hto | hto
  · rcases hto.cases_head with heq | ⟨next, ⟨j, hx⟩, -⟩
    · exact heq
    · exact absurd rfl (h.exchanged_gone hx r hr)
  · rcases hto.cases_head with heq | ⟨next, ⟨j, hx⟩, -⟩
    · exact heq.symm
    · exact absurd rfl (h.exchanged_gone hx r' hr')

end Orderly

/-- Refresh tokens are used once.  However many requests are under way, and whatever administrators
add and delete and whichever statements fail in between, no refresh token is exchanged by two of
them; and of the tokens that go back to one grant, one at most has a row. -/
theorem refresh_token_single_use (env : Surroundings) (lifetimes : Lifetimes) (events : List Event)
    (htoken : Function.Injective env.token) (hown : ∀ e ∈ events, ¬ e.putsPair) :
    (∀ i j old new new', (run env lifetimes events).Exchanges i old new →
      (run env lifetimes events).Exchanges j old new' → i = j) ∧
    ∀ i, ∀ r ∈ (run env lifetimes events).tables.refreshTokens.rows,
      ∀ r' ∈ (run env lifetimes events).tables.refreshTokens.rows,
        (run env lifetimes events).Lineage i r.token →
          (run env lifetimes events).Lineage i r'.token → r = r' := by
  have h : (run env lifetimes events).Orderly env lifetimes :=
    { Recorded.run env lifetimes events with own := run_own hown, distinct := htoken }
  constructor
  · intro i j old new new' hi hj
    exact (h.exchange_unique hi hj).1
  · intro i r hr r' hr' hl hl'
    exact h.lineage_live hr hr' hl hl'

/-- A user obtains a pair, and two requests present its refresh token in turns. -/
def race : List Event :=
  [.administer (.createUser "ann" "secret") {},
    .arrive none { grantType := "password", username := some "ann", password := some "secret" }] ++
  List.replicate 6 (.ask 0 {}) ++
  List.replicate 2
    (.arrive none { grantType := "refresh_token", refreshToken := some "a" }) ++
  (List.replicate 7 [.ask 1 {}, .ask 2 {}]).flatten

/-- The first of two requests that present the same refresh token succeeds, and no other. -/
theorem refresh_token_single_use_race :
    Function.Injective Surroundings.counting.token ∧ (∀ e ∈ race, ¬ e.putsPair) ∧
      (run .counting ⟨60, 3600⟩ race).Exchanges 1 "a" "aaa" ∧
        ∀ j new, (run .counting ⟨60, 3600⟩ race).Exchanges j "a" new → 1 = j := by
  have htoken : Function.Injective Surroundings.counting.token := by
    intro m n h
    simpa [Surroundings.counting] using congrArg (·.toList.length) h
  have hown : ∀ e ∈ race, ¬ e.putsPair := by decide
  have hfirst :
      ((run .counting ⟨60, 3600⟩ race).threads[1]?.map fun th ↦ (th.request, th.answer?)) =
      some ({ grantType := "refresh_token", refreshToken := some "a" },
        some (.ok ⟨2, "aaaaa", 60, "Bearer", "", "aaa"⟩)) := by decide +kernel
  obtain ⟨th, hth, heq⟩ := Option.map_eq_some_iff.mp hfirst
  obtain ⟨hrequest, hanswer⟩ := Prod.mk.inj heq
  have hx : (run .counting ⟨60, 3600⟩ race).Exchanges 1 "a" "aaa" :=
    ⟨th, _, hth, by rw [hrequest]; rfl, by rw [hrequest]; rfl, hanswer, rfl⟩
  refine ⟨htoken, hown, hx, fun j new hj ↦ ?_⟩
  exact (refresh_token_single_use .counting ⟨60, 3600⟩ race htoken hown).1 1 j "a" "aaa" new hx hj

end System

end TokenMint
