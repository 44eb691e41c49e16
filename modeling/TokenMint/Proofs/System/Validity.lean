import TokenMint.Proofs.Grant.Refresh
import TokenMint.Proofs.System.Standing

/-! # When a refresh token is valid

A refresh token that is presented while the store is open is good for a new pair exactly if it has
come out of an earlier answer, has not been exchanged, has not expired, and nothing has been deleted
on which its rows stand.  Otherwise the answer tells the first of these that fails, in the order in
which the rows are looked at. -/

namespace TokenMint

open Store (Database RefreshRow TableName Tables)

theorem Endpoint.token_of_refresh {lifetimes : Lifetimes} {basic : Option Credentials}
    {r : TokenRequest} (hg : r.grantType = GrantType.refreshToken.name) :
    token lifetimes basic r = refreshGrant lifetimes (r.refreshToken.getD "") := by
  rw [token, GrantType.parse_eq_ok.mpr hg]

namespace System

variable {env : Surroundings} {lifetimes : Lifetimes} {σ : System}

/-! ## Serving a request at once -/

/-- What a request is answered if it is served at once, and nothing fails. -/
def served (env : Surroundings) (lifetimes : Lifetimes) (σ : System) (basic : Option Credentials)
    (request : TokenRequest) : Except Failure TokenResponse :=
  ((Endpoint.token lifetimes basic request).run (Service.answer env {}) σ.service).1

/-- A request that asks all its questions in a row gets to its end. -/
theorem exists_resume_done (env : Surroundings) (lifetimes : Lifetimes) {i : Nat}
    {basic : Option Credentials} {request : TokenRequest}
    {rest : Program (Except Failure TokenResponse)}
    (hth : σ.threads[i]? = some ⟨basic, request, rest⟩) :
    ∃ k, (σ.resume env lifetimes (List.replicate k (.ask i {}))).threads[i]? =
      some ⟨basic, request, .done (rest.run (Service.answer env {}) σ.service).1⟩ := by
  induction rest generalizing σ with
  | done a => exact ⟨0, hth⟩
  | ask c next ih =>
    have hstep : σ.step env lifetimes (.ask i {}) =
        { service := (σ.service.answer env {} c).2
          threads := σ.threads.set i ⟨basic, request, next (σ.service.answer env {} c).1⟩
          log := σ.log ++ [.turn i ⟨c, (σ.service.answer env {} c).1⟩] } := by
      simp only [step, hth]
      rfl
    have hnext : (σ.step env lifetimes (.ask i {})).threads[i]? =
        some ⟨basic, request, next (σ.service.answer env {} c).1⟩ := by
      rw [hstep]
      exact List.getElem?_set_self (List.getElem?_eq_some_iff.mp hth).1
    obtain ⟨k, hk⟩ := ih _ hnext
    refine ⟨k + 1, ?_⟩
    rw [hstep] at hk
    rw [Program.run_ask, List.replicate_succ, resume_cons, hstep]
    exact hk

/-- What a request is answered at once is what it is answered in a run in which it is alone. -/
theorem exists_served (basic : Option Credentials) (request : TokenRequest) :
    ∃ k th, (σ.resume env lifetimes (.arrive basic request ::
        List.replicate k (.ask σ.threads.length {}))).threads[σ.threads.length]? = some th ∧
      th.answer? = some (σ.served env lifetimes basic request) := by
  have harrived : (σ.step env lifetimes (.arrive basic request)).threads[σ.threads.length]? =
      some ⟨basic, request, Endpoint.token lifetimes basic request⟩ :=
    List.getElem?_concat_length
  obtain ⟨k, hk⟩ := exists_resume_done env lifetimes harrived
  exact ⟨k, _, hk, rfl⟩

/-! ## What is found of a presented token -/

section Presented

variable {basic : Option Credentials} {request : TokenRequest}

theorem served_unknown (hr : σ.service.database.Ready)
    (hg : request.grantType = GrantType.refreshToken.name)
    (hno : ∀ r ∈ σ.tables.refreshTokens.rows, r.token ≠ request.refreshToken.getD "") :
    σ.served env lifetimes basic request = .error (.invalidGrant "Refresh token not found") := by
  rw [served, Endpoint.token_of_refresh hg,
    Service.run_refreshGrant_unknown (hr.refreshToken?_eq_none hno)]

namespace Settled

variable {p : NewPair × IssuedPair}

variable (h : σ.Settled env lifetimes) (hr : σ.service.database.Ready)
  (hg : request.grantType = GrantType.refreshToken.name)
  (htoken : p.1.refreshToken = request.refreshToken.getD "")
  (hrow : Tables.refreshRow p.1 p.2.refreshTokenId ∈ σ.tables.refreshTokens.rows)

include h hr hg htoken hrow

theorem served_expired (hold : p.1.refreshExpiresAt ≤ env.clock σ.service.readings) :
    σ.served env lifetimes basic request = .error (.invalidGrant "Refresh token expired") := by
  rw [served, Endpoint.token_of_refresh hg, ← htoken,
    Service.run_refreshGrant_expired (h.refreshToken?_eq hr hrow) hold]

theorem served_ownerless (hp : p ∈ σ.stored)
    (hfresh : ¬ p.1.refreshExpiresAt ≤ env.clock σ.service.readings)
    (hno : Tables.accessRow p.1 p.2.refreshTokenId p.2.accessTokenId ∉
      σ.tables.accessTokens.rows) :
    σ.served env lifetimes basic request =
      .error (.invalidGrant "Access token with refresh token not found") := by
  rw [served, Endpoint.token_of_refresh hg, ← htoken,
    Service.run_refreshGrant_fresh (h.refreshToken?_eq hr hrow) hfresh
      (h.accessToken?_eq_none hr hp hno)]
  rfl

theorem served_issued (hfresh : ¬ p.1.refreshExpiresAt ≤ env.clock σ.service.readings)
    (haccess : Tables.accessRow p.1 p.2.refreshTokenId p.2.accessTokenId ∈
      σ.tables.accessTokens.rows) :
    ∃ res, σ.served env lifetimes basic request = .ok res := by
  have howner : AccessToken.owner? ⟨p.2.accessTokenId, p.1.accessToken, p.1.accessExpiresAt,
      p.1.owner.clientId?, p.1.owner.userId?, p.2.refreshTokenId⟩ = some p.1.owner :=
    Owner.ofColumns?_columns _
  rw [served, Endpoint.token_of_refresh hg, ← htoken,
    Service.run_refreshGrant_fresh (h.refreshToken?_eq hr hrow) hfresh
      (h.accessToken?_eq hr haccess), Option.bind_some, howner]
  dsimp only
  rw [Service.run_issue]
  generalize hs : ({ σ.service with readings := σ.service.readings + 1 } : Service) = s
  have hdb : s.database = σ.service.database := hs ▸ rfl
  have hdrawn : s.drawn = σ.service.drawn := hs ▸ rfl
  have hnew : ∀ q ∈ σ.stored,
      q.1.refreshToken ≠ env.token s.drawn ∧ q.1.accessToken ≠ env.token (s.drawn + 1) := by
    intro q hq
    obtain ⟨i, hi⟩ := h.exists_turn hq
    obtain ⟨hfirst, hsecond⟩ := h.drawn hi
    rw [hdrawn]
    exact ⟨h.fresh_ne hfirst (Nat.le_refl _), h.fresh_ne hsecond (Nat.le_succ _)⟩
  obtain ⟨issued, db', hstore⟩ : ∃ issued db', σ.service.database.storePair .none
      (s.drawnPair env lifetimes p.1.owner (some p.2.refreshTokenId)) = (.ok issued, db') :=
    h.storePair_replaces hr ⟨hrow, haccess⟩ rfl rfl hnew
  rw [hdb]
  simp only [hstore]
  exact ⟨_, rfl⟩

omit hrow htoken

/-- A presented refresh token is looked at from three sides, one after the other. -/
theorem served_cases (basic : Option Credentials) :
    (∀ r ∈ σ.tables.refreshTokens.rows, r.token ≠ request.refreshToken.getD "") ∧
        σ.served env lifetimes basic request = .error (.invalidGrant "Refresh token not found") ∨
      ∃ p ∈ σ.stored, p.1.refreshToken = request.refreshToken.getD "" ∧
        Tables.refreshRow p.1 p.2.refreshTokenId ∈ σ.tables.refreshTokens.rows ∧
          (p.1.refreshExpiresAt ≤ env.clock σ.service.readings ∧
              σ.served env lifetimes basic request =
                .error (.invalidGrant "Refresh token expired") ∨
            ¬ p.1.refreshExpiresAt ≤ env.clock σ.service.readings ∧
              (σ.served env lifetimes basic request =
                  .error (.invalidGrant "Access token with refresh token not found") ∨
                σ.Stands p ∧ ∃ res, σ.served env lifetimes basic request = .ok res)) := by
  by_cases hno : ∀ r ∈ σ.tables.refreshTokens.rows, r.token ≠ request.refreshToken.getD ""
  · exact .inl ⟨hno, served_unknown hr hg hno⟩
  · push Not at hno
    obtain ⟨r, hrow, htoken⟩ := hno
    obtain ⟨p, hp, rfl⟩ := h.ledger.refreshRows r hrow
    refine .inr ⟨p, hp, htoken, hrow, ?_⟩
    by_cases hold : p.1.refreshExpiresAt ≤ env.clock σ.service.readings
    · exact .inl ⟨hold, h.served_expired hr hg htoken hrow hold⟩
    · refine .inr ⟨hold, ?_⟩
      by_cases haccess : Tables.accessRow p.1 p.2.refreshTokenId p.2.accessTokenId ∈
          σ.tables.accessTokens.rows
      · exact .inr ⟨⟨hrow, haccess⟩, h.served_issued hr hg htoken hrow hold haccess⟩
      · exact .inl (h.served_ownerless hr hg htoken hrow hp hold haccess)

end Settled

end Presented

/-! ## Validity -/

/-- An event after which a pair has lost a row is its exchange, or deletes something on which the
rows stand. -/
theorem Settled.stands_step {p : NewPair × IssuedPair} {e : Event} (h : σ.Settled env lifetimes)
    (h' : (σ.step env lifetimes e).Settled env lifetimes) (hp : p ∈ σ.stored) (hs : σ.Stands p) :
    (σ.step env lifetimes e).Stands p ∨
      (∃ i new, (σ.step env lifetimes e).Exchanges i p.1.refreshToken new) ∨
        ∃ n id o, e = .administer (.delete n id) o ∧
          (n, id) ∈ [(.refreshTokens, p.2.refreshTokenId), (.accessTokens, p.2.accessTokenId),
            (p.1.owner.table, p.1.owner.id)] := by
  have hp' : p ∈ (σ.step env lifetimes e).stored := (σ.resume_stored [e]).subset hp
  obtain ⟨-, hr, ha, ho⟩ := (h.stands_iff hp).mp hs
  have hkept {y : TableName × Int} (hy : y ∉ σ.deletions)
      (hno : ∀ o, e ≠ .administer (.delete y.1 y.2) o) :
      y ∉ (σ.step env lifetimes e).deletions := by
    intro hmem
    rcases step_deletions hmem with hmem | ⟨o, he⟩
    · exact hy hmem
    · exact hno o he
  by_cases hx : ∃ i new, (σ.step env lifetimes e).Exchanges i p.1.refreshToken new
  · exact .inr (.inl hx)
  · by_cases hd : ∃ n id o, e = .administer (.delete n id) o ∧
        (n, id) ∈ [(.refreshTokens, p.2.refreshTokenId), (.accessTokens, p.2.accessTokenId),
          (p.1.owner.table, p.1.owner.id)]
    · exact .inr (.inr hd)
    · push Not at hx hd
      refine .inl ((h'.stands_iff hp').mpr ⟨hx, hkept hr ?_, hkept ha ?_, hkept ho ?_⟩)
      · exact fun o he ↦ hd _ _ o he (by simp)
      · exact fun o he ↦ hd _ _ o he (by simp)
      · exact fun o he ↦ hd _ _ o he (by simp)

/-- When a refresh token is valid.  Whatever requests have been answered and administrators added
and deleted, a refresh token that is presented while the store is open is exchanged exactly if it
has come out of an earlier answer, has not been exchanged before and has not expired, and neither
its row nor that of its access token nor that of the owner has been deleted.  Otherwise the answer
says which row is missing, or that the token has expired; and but for these nothing ends the
validity of a token. -/
theorem refresh_token_valid_iff (env : Surroundings) (lifetimes : Lifetimes) (events : List Event)
    (basic : Option Credentials) (request : TokenRequest) (htoken : Function.Injective env.token)
    (hown : ∀ e ∈ events, ¬ e.putsPair)
    (hopen : (run env lifetimes events).service.database.closed = false)
    (hgrant : request.grantType = GrantType.refreshToken.name) :
    let σ := run env lifetimes events
    let token := request.refreshToken.getD ""
    let now := env.clock σ.service.readings
    let answer := σ.served env lifetimes basic request
    (∃ k th, (σ.resume env lifetimes (.arrive basic request ::
        List.replicate k (.ask σ.threads.length {}))).threads[σ.threads.length]? = some th ∧
      th.answer? = some answer) ∧
    ((∃ res, answer = .ok res) ↔
      ∃ i p, σ.Answers lifetimes i p ∧ p.1.refreshToken = token ∧
        (∀ j new, ¬ σ.Exchanges j token new) ∧
        (.refreshTokens, p.2.refreshTokenId) ∉ σ.deletions ∧ ¬ p.1.refreshExpiresAt ≤ now ∧
        (.accessTokens, p.2.accessTokenId) ∉ σ.deletions ∧
        (p.1.owner.table, p.1.owner.id) ∉ σ.deletions) ∧
    (∀ f, answer = .error f → f.status = 400 ∧
      ((∀ r ∈ σ.tables.refreshTokens.rows, r.token ≠ token) ∧
          f = .invalidGrant "Refresh token not found" ∨
        (∃ r ∈ σ.tables.refreshTokens.rows, r.token = token ∧
            ∃ x, r.expiry = .instant x ∧ x ≤ now) ∧
          f = .invalidGrant "Refresh token expired" ∨
        (∃ r ∈ σ.tables.refreshTokens.rows, r.token = token ∧
            ∃ x, r.expiry = .instant x ∧ ¬ x ≤ now) ∧
          f = .invalidGrant "Access token with refresh token not found")) ∧
    ((∃ r ∈ σ.tables.refreshTokens.rows, r.token = token) ↔
      ∃ i p, σ.Answers lifetimes i p ∧ p.1.refreshToken = token ∧
        (∀ j new, ¬ σ.Exchanges j token new) ∧
        (.refreshTokens, p.2.refreshTokenId) ∉ σ.deletions) ∧
    ∀ e, ¬ e.putsPair → ∀ p ∈ σ.stored, p.1.refreshToken = token → σ.Stands p →
      (σ.step env lifetimes e).Stands p ∨
        (∃ i new, (σ.step env lifetimes e).Exchanges i token new) ∨
        ∃ n id o, e = .administer (.delete n id) o ∧
          (n, id) ∈ [(.refreshTokens, p.2.refreshTokenId), (.accessTokens, p.2.accessTokenId),
            (p.1.owner.table, p.1.owner.id)] := by
  intro σ token now answer
  have h : σ.Settled env lifetimes := .run htoken hown
  have hready : σ.service.database.Ready := run_ready hopen
  have hcases : _ ∨ _ := h.served_cases hready hgrant basic
  refine ⟨exists_served basic request, ?_, ?_, ?_, ?_⟩
  · constructor
    · rintro ⟨res, hres⟩
      rcases hcases with ⟨-, herr⟩ | ⟨p, hp, ht, -, ⟨-, herr⟩ | ⟨hfresh, herr | ⟨hs, -⟩⟩⟩
      · cases hres.symm.trans herr
      · cases hres.symm.trans herr
      · cases hres.symm.trans herr
      · obtain ⟨i, hi⟩ := h.exists_answers hp
        obtain ⟨hx, hr, ha, ho⟩ := (h.stands_iff hp).mp hs
        rw [ht] at hx
        exact ⟨i, p, hi, ht, hx, hr, hfresh, ha, ho⟩
    · rintro ⟨i, p, hi, ht, hx, hr, hfresh, ha, ho⟩
      have hp := Obtains.mem_stored hi.1
      rw [← ht] at hx
      obtain ⟨hrow, haccess⟩ := (h.stands_iff hp).mpr ⟨hx, hr, ha, ho⟩
      exact h.served_issued hready hgrant ht hrow hfresh haccess
  · intro f hf
    rcases hcases with
      ⟨hno, herr⟩ | ⟨p, hp, ht, hrow, ⟨hold, herr⟩ | ⟨hfresh, herr | ⟨-, res, hok⟩⟩⟩
    · cases hf.symm.trans herr
      exact ⟨rfl, .inl ⟨hno, rfl⟩⟩
    · cases hf.symm.trans herr
      exact ⟨rfl, .inr (.inl ⟨⟨_, hrow, ht, _, rfl, hold⟩, rfl⟩)⟩
    · cases hf.symm.trans herr
      exact ⟨rfl, .inr (.inr ⟨⟨_, hrow, ht, _, rfl, hfresh⟩, rfl⟩)⟩
    · cases hf.symm.trans hok
  · constructor
    · rintro ⟨r, hr, ht⟩
      obtain ⟨p, hp, rfl⟩ := h.ledger.refreshRows r hr
      obtain ⟨i, hi⟩ := h.exists_answers hp
      obtain ⟨hx, hd⟩ := (h.refreshRow_iff hp).mp hr
      change p.1.refreshToken = token at ht
      exact ⟨i, p, hi, ht, ht ▸ hx, hd⟩
    · rintro ⟨i, p, hi, ht, hx, hd⟩
      rw [← ht] at hx
      exact ⟨_, (h.refreshRow_iff (Obtains.mem_stored hi.1)).mpr ⟨hx, hd⟩, ht⟩
  · intro e he p hp ht hs
    have h' : (σ.step env lifetimes e).Settled env lifetimes := by
      rw [← run_concat]
      exact .run htoken (List.forall_mem_append.mpr ⟨hown, by simpa using he⟩)
    rw [← ht]
    exact h.stands_step h' hp hs

/-- A user obtains a pair with the refresh token of one letter. -/
def admission : List Event :=
  [.administer (.createUser "ann" "secret") {},
    .arrive none { grantType := "password", username := some "ann", password := some "secret" }] ++
  List.replicate 6 (.ask 0 {})

/-- The refresh token is exchanged as long as the user is there; without the user there is no access
token that goes with it. -/
theorem refresh_token_valid_iff_admission :
    let request : TokenRequest := { grantType := "refresh_token", refreshToken := some "a" }
    let deleted := admission ++ [.administer (.delete .users 1) {}]
    (∃ res, (run .counting ⟨60, 3600⟩ admission).served .counting ⟨60, 3600⟩ none request =
      .ok res) ∧
    (∃ i p, (run .counting ⟨60, 3600⟩ admission).Answers ⟨60, 3600⟩ i p ∧
      p.1.refreshToken = "a" ∧
        ∀ j new, ¬ (run .counting ⟨60, 3600⟩ admission).Exchanges j "a" new) ∧
    ∃ r ∈ (run .counting ⟨60, 3600⟩ deleted).tables.refreshTokens.rows, r.token = "a" ∧
      (run .counting ⟨60, 3600⟩ deleted).served .counting ⟨60, 3600⟩ none request =
        .error (.invalidGrant "Access token with refresh token not found") := by
  intro request deleted
  have htoken := Surroundings.counting_injective
  have hserved : ∃ res, (run .counting ⟨60, 3600⟩ admission).served .counting ⟨60, 3600⟩ none
      request = .ok res := ⟨⟨2, "aaaa", 60, "Bearer", "", "aaa"⟩, by decide +kernel⟩
  have hrefused : (run .counting ⟨60, 3600⟩ deleted).served .counting ⟨60, 3600⟩ none request =
      .error (.invalidGrant "Access token with refresh token not found") := by decide +kernel
  obtain ⟨-, hvalid, -⟩ := refresh_token_valid_iff .counting ⟨60, 3600⟩ admission none request
    htoken (by decide) (by decide +kernel) rfl
  obtain ⟨-, -, hrefusal, -⟩ := refresh_token_valid_iff .counting ⟨60, 3600⟩ deleted none request
    htoken (by decide) (by decide +kernel) rfl
  refine ⟨hserved, ?_, ?_⟩
  · obtain ⟨i, p, hi, ht, hx, -⟩ := hvalid.mp hserved
    exact ⟨i, p, hi, ht, hx⟩
  · rcases (hrefusal _ hrefused).2 with ⟨-, hf⟩ | ⟨-, hf⟩ | ⟨⟨r, hr, ht, -⟩, -⟩
    · exact absurd hf (by decide)
    · exact absurd hf (by decide)
    · exact ⟨r, hr, ht, hrefused⟩

end System

end TokenMint
