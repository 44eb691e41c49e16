import TokenMint.Proofs.System.History

/-! # The principal of a chain of rotations

A rotation reads the owner of the new pair off the row of the old access token, in a lookup of its
own.  That row is always the one that was written with the old pair, for no number is given out
twice: so the owner is handed on unchanged, from the grant in which a secret was presented to every
pair that goes back to it, whatever administrators do in between. -/

namespace TokenMint

open Store (AccessRow TableName Tables)

/-- The owner that a row records in its two columns. -/
def Store.AccessRow.owner? (a : AccessRow) : Option Owner := Owner.ofColumns? a.clientId a.userId

/-- An access token as it is told in a response is in the tables, with this owner. -/
def TokenResponse.BelongsTo (res : TokenResponse) (owner : Owner) (t : Tables) : Prop :=
  ∃ a ∈ t.accessTokens.rows, a.id = res.id ∧ a.token = res.accessToken ∧ a.owner? = some owner

/-- The access token of a pair belongs to its owner. -/
theorem TokenResponse.BelongsTo.of_withPair {t : Tables} {lifetimes : Lifetimes} {pair : NewPair}
    {issued : IssuedPair} (h : issued.accessTokenId = t.accessTokens.next) :
    (issued.response lifetimes pair).BelongsTo pair.owner (t.withPair pair) :=
  ⟨_, List.mem_append_right _ (List.mem_singleton_self _), h.symm, rfl,
    Owner.ofColumns?_columns _⟩

/-- Whoever presents a secret has been found in the store by the first turn of the request. -/
theorem Endpoint.Entitles.finds {basic : Option Credentials} {r : TokenRequest} {t : List Turn}
    {owner : Owner} (h : Entitles basic r t owner none) :
    ∃ u t', t = u :: t' ∧ ∀ (env : Surroundings) (o : Outage) (s : Service),
      u.reply = (s.answer env o u.call).1 → s.database.tables.HasOwner owner := by
  generalize hs : none = supersedes at h
  cases h with
  | refreshToken => cases hs
  | @password c u =>
    refine ⟨_, _, rfl, fun env o s hreply ↦ ?_⟩
    obtain ⟨-, hq⟩ := (s.look_eq_ok o).mp hreply.symm
    obtain ⟨_, -, hq⟩ := Store.bind_eq_ok.mp hq
    exact ⟨u, List.mem_of_find?_eq_some (Except.ok.inj hq), rfl⟩
  | @clientCredentials c k =>
    refine ⟨_, _, rfl, fun env o s hreply ↦ ?_⟩
    obtain ⟨-, hq⟩ := (s.look_eq_ok o).mp hreply.symm
    obtain ⟨_, -, hq⟩ := Store.bind_eq_ok.mp hq
    exact ⟨k, List.mem_of_find?_eq_some (Except.ok.inj hq), rfl⟩

namespace System

variable {env : Surroundings} {lifetimes : Lifetimes} {events : List Event}

theorem obtains_iff {σ : System} {i : Nat} {p : NewPair × IssuedPair} :
    σ.Obtains i p ↔ p ∈ (σ.turns i).filterMap Turn.stored? := by
  rw [Obtains, ← mem_turns, List.mem_filterMap]
  constructor
  · intro h
    exact ⟨_, h, rfl⟩
  · rintro ⟨u, hu, h⟩
    exact Turn.stored?_eq_some.mp h ▸ hu

instance (σ : System) (i : Nat) (p : NewPair × IssuedPair) : Decidable (σ.Obtains i p) :=
  decidable_of_iff' _ obtains_iff

/-- The pairs that go back to one request: its own, if that presented a secret, and those that have
replaced one of them. -/
inductive Descent (σ : System) (i : Nat) : NewPair × IssuedPair → Prop
  | start {p : NewPair × IssuedPair} (h : σ.Obtains i p) (hs : p.1.supersedes = none) :
    Descent σ i p
  | rotate {p q : NewPair × IssuedPair} {j : Nat} (h : Descent σ i p) (hq : σ.Obtains j q)
    (hs : q.1.supersedes = some p.2.refreshTokenId) : Descent σ i q

theorem Descent.mem_stored {σ : System} {i : Nat} {p : NewPair × IssuedPair}
    (h : σ.Descent i p) : p ∈ σ.stored := by
  cases h with
  | start h => exact h.mem_stored
  | rotate _ hq => exact hq.mem_stored

/-! ## Rows -/

/-- A row for an access token is at any moment what was written with its pair. -/
theorem accessRow_eq {before after : List Event} {p : NewPair × IssuedPair} {a : AccessRow}
    (hp : p ∈ (run env lifetimes (before ++ after)).stored)
    (ha : a ∈ (run env lifetimes before).tables.accessTokens.rows)
    (hid : a.id = p.2.accessTokenId ∨ a.refreshTokenId = p.2.refreshTokenId) :
    a = Tables.accessRow p.1 p.2.refreshTokenId p.2.accessTokenId := by
  obtain ⟨q, hq, rfl⟩ := (Recorded.run env lifetimes before).ledger.accessRows a ha
  have haccount := (Accounted.run env lifetimes (before ++ after)).account
  have hq : q ∈ (run env lifetimes (before ++ after)).stored := by
    rw [run_append]
    exact (resume_stored after).subset hq
  have heq : q = p := by
    rcases hid with hid | hid
    · exact haccount.eq_of_accessTokenId hq hp hid
    · exact haccount.eq_of_refreshTokenId hq hp hid
  rw [heq]

/-- Every pair has had its row. -/
theorem exists_accessRow {p : NewPair × IssuedPair} (hp : p ∈ (run env lifetimes events).stored) :
    ∃ before after, events = before ++ after ∧
      Tables.accessRow p.1 p.2.refreshTokenId p.2.accessTokenId ∈
        (run env lifetimes before).tables.accessTokens.rows := by
  obtain ⟨x, hx, hstored⟩ := List.mem_filterMap.mp hp
  obtain ⟨before, e, after, rfl, hlog⟩ := run_moment_of_mem hx
  refine ⟨before ++ [e], after, by simp, ?_⟩
  rw [run_concat]
  exact ((step_log hlog).stores hstored).mem_accessTokens.mpr (.inr rfl)

/-! ## Rotations -/

/-- An access token that has been looked up was found with the owner of its pair. -/
theorem accessToken_found {j : Nat} {id : Int} {access : AccessToken}
    (h : .turn j ⟨.accessToken id, .ok (some access)⟩ ∈ (run env lifetimes events).log) :
    ∃ p ∈ (run env lifetimes events).stored, p.2.refreshTokenId = id ∧
      access.clientId = p.1.owner.clientId? ∧ access.userId = p.1.owner.userId? := by
  obtain ⟨before, e, after, rfl, hlog⟩ := run_moment_of_mem h
  obtain ⟨o, -, -, -, -, -, hreply, -⟩ := step_turn hlog
  obtain ⟨a, ha, hid, hclient, huser⟩ :=
    (run env lifetimes before).service.answer_accessToken env o hreply.symm
  obtain ⟨p, hp, rfl⟩ := (Recorded.run env lifetimes before).ledger.accessRows a ha
  refine ⟨p, ?_, hid, hclient.symm, huser.symm⟩
  rw [run_append]
  exact (resume_stored _).subset hp

/-- The step of the induction: a pair that replaces another has its owner. -/
theorem Obtains.owner_eq {j : Nat} {p q : NewPair × IssuedPair}
    (hq : (run env lifetimes events).Obtains j q) (hp : p ∈ (run env lifetimes events).stored)
    (hs : q.1.supersedes = some p.2.refreshTokenId) : q.1.owner = p.1.owner := by
  obtain ⟨-, -, access, -, -, -, -, hlooked, hc, hu, -⟩ :=
    (Recorded.run env lifetimes events).replaced hq hs
  obtain ⟨p', hp', hid, hc', hu'⟩ := accessToken_found hlooked
  obtain rfl := (Accounted.run env lifetimes events).account.eq_of_refreshTokenId hp' hp hid
  exact Owner.columns_inj (hc.symm.trans hc') (hu.symm.trans hu')

/-! ## Chains of rotations -/

/-- A chain of rotations goes back to whoever presented a secret, and still speaks for them. -/
theorem Descent.entitled {i : Nat} {p : NewPair × IssuedPair}
    (h : (run env lifetimes events).Descent i p) :
    ∃ th t, (run env lifetimes events).threads[i]? = some th ∧
      t <+: (run env lifetimes events).turns i ∧
        Endpoint.Entitles th.basic th.request t p.1.owner none := by
  induction h with
  | start h hs =>
    obtain ⟨th, t, now, hth, hturns, he⟩ := (Recorded.run env lifetimes events).entitled h
    rw [hs] at he
    exact ⟨th, t, hth, hturns ▸ List.prefix_append t _, he⟩
  | rotate h hq hs ih =>
    rw [hq.owner_eq h.mem_stored hs]
    exact ih

/-- Once a request has taken a turn, whoever it speaks for has been given a number. -/
theorem Descent.owner_le_last {before after : List Event} {i : Nat} {p : NewPair × IssuedPair}
    (h : (run env lifetimes (before ++ after)).Descent i p)
    (hbegun : (run env lifetimes before).turns i ≠ []) :
    p.1.owner.id ≤ (run env lifetimes before).tables.last p.1.owner.table := by
  obtain ⟨th, t, -, ⟨t₁, hturns⟩, he⟩ := h.entitled
  obtain ⟨v, t', rfl, hfinds⟩ := he.finds
  have hfirst : .turn i v ∈ (run env lifetimes before).log := by
    obtain ⟨w, ws, hw⟩ := List.exists_cons_of_ne_nil hbegun
    rw [run_append] at hturns
    obtain ⟨t₂, ht₂⟩ := (run env lifetimes before).resume_turns after i
    rw [← ht₂, hw] at hturns
    rw [← mem_turns, hw]
    exact List.mem_cons.mpr (.inl (List.cons.inj hturns).1)
  obtain ⟨early, e, rest, rfl, hstep⟩ := run_moment_of_mem hfirst
  obtain ⟨o, -, -, -, -, -, hreply, -⟩ := step_turn hstep
  have hrow := Tables.hasOwner_iff.mp (hfinds env o _ hreply)
  have hle := (Recorded.run env lifetimes early).integrity.id_le_last hrow
  rw [run_append]
  exact Int.le_trans hle ((resume_counts _).last _)

/-- Whoever is added after a request has taken a turn is not who it speaks for. -/
theorem Descent.owner_ne_added {before more after : List Event} {i : Nat}
    {p : NewPair × IssuedPair} (h : (run env lifetimes (before ++ more ++ after)).Descent i p)
    (hbegun : (run env lifetimes before).turns i ≠ []) {n : TableName} {id : Int}
    (hno : id ∉ (run env lifetimes before).tables.ids n)
    (hid : id ∈ (run env lifetimes (before ++ more)).tables.ids n) :
    (p.1.owner.table, p.1.owner.id) ≠ (n, id) := by
  rw [List.append_assoc] at h
  have hle := h.owner_le_last hbegun
  rw [run_append] at hid
  intro heq
  cases heq
  exact (resume_counts more).not_mem hle hno hid

/-- The principal of a chain of rotations never changes.  Whatever requests are under way and
whatever administrators do, a refresh that succeeds replaces the pair of the presented token by one
of the same owner; the rows for access tokens record the owners of their pairs at every moment of
the run, a user as a user and a client as a client; so a chain of any length speaks for whoever
presented a secret in its first request, and for nobody who was added after that had begun. -/
theorem rotation_keeps_principal (env : Surroundings) (lifetimes : Lifetimes)
    (events : List Event) :
    let σ := run env lifetimes events
    (∀ j th res, σ.threads[j]? = some th →
      th.request.grantType = GrantType.refreshToken.name → th.answer? = some (.ok res) →
      ∃ p ∈ σ.stored, ∃ q, σ.Obtains j q ∧ p.1.refreshToken = th.request.refreshToken.getD "" ∧
        q.1.supersedes = some p.2.refreshTokenId ∧ res = q.2.response lifetimes q.1 ∧
          q.1.owner = p.1.owner) ∧
    (∀ p ∈ σ.stored,
      (∃ before after, events = before ++ after ∧
        ∃ a ∈ (run env lifetimes before).tables.accessTokens.rows, a.id = p.2.accessTokenId) ∧
      ∀ before after, events = before ++ after →
        ∀ a ∈ (run env lifetimes before).tables.accessTokens.rows,
          a.id = p.2.accessTokenId ∨ a.refreshTokenId = p.2.refreshTokenId →
          a.token = p.1.accessToken ∧ a.owner? = some p.1.owner) ∧
    ∀ i p, σ.Descent i p →
      (∃ th t, σ.threads[i]? = some th ∧ t <+: σ.turns i ∧
        Endpoint.Entitles th.basic th.request t p.1.owner none) ∧
      ∀ before more after, events = before ++ more ++ after →
        (run env lifetimes before).turns i ≠ [] →
        ∀ n id, id ∉ (run env lifetimes before).tables.ids n →
          id ∈ (run env lifetimes (before ++ more)).tables.ids n →
          (p.1.owner.table, p.1.owner.id) ≠ (n, id) := by
  intro σ
  refine ⟨?_, fun p hp ↦ ⟨?_, ?_⟩, fun i p hd ↦ ⟨hd.entitled, ?_⟩⟩
  · intro j th res hth hgrant hdone
    obtain ⟨p, hp, q, hq, htoken, hsup, hres⟩ :=
      (Recorded.run env lifetimes events).refreshed hth hgrant hdone
    exact ⟨p, hp, q, hq, htoken, hsup, hres, hq.owner_eq hp hsup⟩
  · obtain ⟨before, after, hevents, ha⟩ := exists_accessRow hp
    exact ⟨before, after, hevents, _, ha, rfl⟩
  · rintro before after rfl a ha hid
    rw [accessRow_eq hp ha hid]
    exact ⟨rfl, Owner.ofColumns?_columns _⟩
  · rintro before more after rfl hbegun n id hno hid
    exact hd.owner_ne_added hbegun hno hid

/-- A user obtains a pair, and it is replaced twice.  Then the user is deleted, and another one is
added under the same name; a client with that name has had the number of the first all along. -/
def succession : List Event :=
  [.administer (.createUser "ann" "secret") {}, .administer (.createClient "ann" "secret") {},
    .arrive none { grantType := "password", username := some "ann", password := some "secret" }] ++
  List.replicate 6 (.ask 0 {}) ++
  [.arrive none { grantType := "refresh_token", refreshToken := some "a" }] ++
  List.replicate 7 (.ask 1 {}) ++
  [.arrive none { grantType := "refresh_token", refreshToken := some "aaa" }] ++
  List.replicate 7 (.ask 2 {}) ++
  [.administer (.delete .users 1) {}, .administer (.createUser "ann" "other") {}]

/-- The third pair speaks for the user who presented the password, and not for the later one. -/
theorem rotation_keeps_principal_succession :
    let σ := run .counting ⟨60, 3600⟩ succession
    ∃ p, σ.Descent 0 p ∧ p.1.refreshToken = "aaaaa" ∧ p.1.owner = .user 1 ∧
      (∃ th t, σ.threads[0]? = some th ∧ t <+: σ.turns 0 ∧
        Endpoint.Entitles th.basic th.request t p.1.owner none) ∧
      2 ∈ σ.tables.ids .users ∧ (p.1.owner.table, p.1.owner.id) ≠ (.users, 2) := by
  intro σ
  have h₁ : σ.Descent 0 (⟨"a", ⟨3600, 0⟩, "aa", ⟨60, 0⟩, .user 1, none⟩, ⟨1, 1, []⟩) :=
    .start (by decide +kernel) rfl
  have h₂ : σ.Descent 0 (⟨"aaa", ⟨3602, 0⟩, "aaaa", ⟨62, 0⟩, .user 1, some 1⟩, ⟨2, 2, []⟩) :=
    h₁.rotate (j := 1) (by decide +kernel) rfl
  have h₃ : σ.Descent 0 (⟨"aaaaa", ⟨3604, 0⟩, "aaaaaa", ⟨64, 0⟩, .user 1, some 2⟩, ⟨3, 3, []⟩) :=
    h₂.rotate (j := 2) (by decide +kernel) rfl
  obtain ⟨-, -, hchain⟩ := rotation_keeps_principal .counting ⟨60, 3600⟩ succession
  obtain ⟨hentitled, hlater⟩ := hchain 0 _ h₃
  refine ⟨_, h₃, rfl, rfl, hentitled, by decide +kernel, ?_⟩
  exact hlater (succession.take 9) (succession.drop 9) [] rfl (by decide +kernel) .users 2
    (by decide +kernel) (by decide +kernel)

end System

end TokenMint
