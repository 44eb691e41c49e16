import TokenMint.Proofs.System.Footprint
import TokenMint.Proofs.System.Principal
import TokenMint.Proofs.System.Validity

/-! # Deleting a principal

The access tokens of a principal go with its row, but its refresh tokens stay, and requests for it
may be under way.  None of this gets anywhere: a pair is stored only for an owner who has a row at
that moment, a number that has been taken out does not come back, and a refresh token is no good
without its access token.  So from its deletion on a principal is cut off, whatever happens then:
`System.deletion_cuts_off`. -/

namespace TokenMint

open Store (AccessRow Database RefreshRow TableName Tables)

namespace Store.Tables

variable {t : Tables}

/-! ## What a deletion leaves -/

/-- A principal has gone with its access tokens and their links, and nothing else has. -/
structure Departure (t : Tables) (o : Owner) (t' : Tables) : Prop where
  principals : ∀ o', t'.HasOwner o' ↔ t.HasOwner o' ∧ o' ≠ o
  scopes : t'.scopes = t.scopes
  refreshTokens : t'.refreshTokens = t.refreshTokens
  accessTokens : t'.accessTokens.rows = t.accessTokens.rows.filter (·.owner? ≠ some o)
  links : t'.links = t.links.filter fun l ↦ ∀ a ∈ t.accessTokens.rows,
    a.owner? = some o → a.id ≠ l.accessTokenId

theorem Integrity.owner?_eq_some (hi : t.Integrity) {a : AccessRow}
    (ha : a ∈ t.accessTokens.rows) {o : Owner} :
    a.owner? = some o ↔ (o.table, o.id) ∈ a.anchors := by
  obtain ⟨o', hc, hu, -⟩ := hi.owner a ha
  rw [AccessRow.owner?, AccessRow.anchors, hc, hu, Owner.ofColumns?_columns]
  cases o <;> cases o' <;>
    simp [Owner.table, Owner.id, Owner.clientId?, Owner.userId?, @eq_comm Int]

theorem hasOwner_remove {o o' : Owner} :
    (t.remove o.table o.id).HasOwner o' ↔ t.HasOwner o' ∧ o' ≠ o := by
  cases o <;> cases o' <;>
    simp [HasOwner, remove, removeUser, removeClient, removeAccess, Owner.table, Owner.id,
      Table.keep] <;> grind

/-- Only access tokens with a reference to a principal go with it. -/
theorem remove_owner (t : Tables) (o : Owner) :
    ∃ gone : AccessRow → Bool, (∀ a, gone a ↔ (o.table, o.id) ∈ a.anchors) ∧
      (t.remove o.table o.id).accessTokens = (t.removeAccess gone).accessTokens ∧
      (t.remove o.table o.id).links = (t.removeAccess gone).links ∧
      (t.remove o.table o.id).refreshTokens = t.refreshTokens ∧
      (t.remove o.table o.id).scopes = t.scopes := by
  cases o with
  | client id =>
    refine ⟨fun a ↦ a.clientId = some id, fun a ↦ ?_, rfl, rfl, rfl, rfl⟩
    simp [AccessRow.anchors, Owner.table, Owner.id]
  | user id =>
    refine ⟨fun a ↦ a.userId = some id, fun a ↦ ?_, rfl, rfl, rfl, rfl⟩
    simp [AccessRow.anchors, Owner.table, Owner.id]

/-- A principal that is deleted takes along no more than its access tokens. -/
theorem Integrity.departure (hi : t.Integrity) (o : Owner) :
    t.Departure o (t.remove o.table o.id) := by
  obtain ⟨gone, hgone, haccess, hlinks, hrefresh, hscopes⟩ := t.remove_owner o
  have hgone' {a : AccessRow} (ha : a ∈ t.accessTokens.rows) : gone a = true ↔ a.owner? = some o :=
    (hgone a).trans (hi.owner?_eq_some ha).symm
  refine ⟨fun _ ↦ hasOwner_remove, hscopes, hrefresh, ?_, ?_⟩
  · rw [haccess]
    refine List.filter_congr fun a ha ↦ ?_
    rw [Bool.eq_iff_iff, decide_eq_true_iff, ne_eq, ← hgone' ha, Bool.not_eq_true']
    simp
  · rw [hlinks]
    refine List.filter_congr fun l _ ↦ ?_
    rw [Bool.eq_iff_iff, decide_eq_true_iff, Bool.not_eq_true', List.any_eq_false]
    refine forall₂_congr fun a ha ↦ ?_
    rw [Bool.and_eq_true, decide_eq_true_iff, not_and, hgone' ha]

/-- The tokens of all others keep their rows, their links and their scopes. -/
theorem Departure.stays {t' : Tables} {o : Owner} (h : t.Departure o t') (hi : t.Integrity)
    {a : AccessRow} (ha : a ∈ t.accessTokens.rows) (hne : a.owner? ≠ some o) :
    a ∈ t'.accessTokens.rows ∧ t'.linksOf a.id = t.linksOf a.id ∧
      t'.scopesOf a.id = t.scopesOf a.id := by
  have hlinks : t'.linksOf a.id = t.linksOf a.id := by
    rw [linksOf, linksOf, h.links, List.filter_filter]
    refine List.filter_congr fun l _ ↦ ?_
    rw [Bool.eq_iff_iff, Bool.and_eq_true, decide_eq_true_iff, decide_eq_true_iff]
    refine and_iff_left_of_imp fun hl b hb hown hid ↦ hne ?_
    rw [← List.inj_on_of_nodup_map hi.accessTokens.ids hb ha (hid.trans hl), hown]
  refine ⟨?_, hlinks, scopesOf_congr h.scopes hlinks⟩
  rw [h.accessTokens]
  exact List.mem_filter.mpr ⟨ha, decide_eq_true hne⟩

/-! ## Afterwards -/

/-- A principal has had a row, and has none any more. -/
structure Departed (t : Tables) (o : Owner) : Prop where
  counted : o.id ≤ t.last o.table
  gone : o.id ∉ t.ids o.table

/-- Who has gone does not come back. -/
theorem Departed.counts {t' : Tables} {o : Owner} (h : t.Departed o) (hc : t.Counts t') :
    t'.Departed o :=
  ⟨Int.le_trans h.counted (hc.last _), hc.not_mem h.counted h.gone⟩

/-- Who has gone has no access tokens. -/
theorem Departed.owner?_ne {o : Owner} (h : t.Departed o) (hi : t.Integrity) :
    ∀ a ∈ t.accessTokens.rows, a.owner? ≠ some o := by
  intro a ha hown
  obtain ⟨hc, hu⟩ := Owner.ofColumns?_eq_some.mp hown
  obtain ⟨o', hc', hu', howner⟩ := hi.owner a ha
  obtain rfl := Owner.columns_inj (hc.symm.trans hc') (hu.symm.trans hu')
  exact h.gone (hasOwner_iff.mp howner)

end Store.Tables

/-! ## The deletion -/

/-- A deletion after which a row has gone has taken it out. -/
theorem Act.run_delete {out : Outage} {db : Database} {n : TableName} {id : Int}
    (hrow : id ∈ db.tables.ids n) (hgone : id ∉ ((Act.delete n id).run out db).2.tables.ids n) :
    ((Act.delete n id).run out db).2.tables = db.tables.remove n id := by
  revert hgone
  refine Outage.spare_execute (g := fun r ↦ r)
    (P := fun p ↦ id ∉ p.2.tables.ids n → p.2.tables = db.tables.remove n id)
    (fun _ hgone ↦ absurd hrow hgone) (fun _ hgone ↦ absurd hrow hgone) fun k db' h _ ↦ ?_
  obtain ⟨-, rfl⟩ := Database.deleteRow_eq_ok h
  rfl

namespace System

variable {env : Surroundings} {lifetimes : Lifetimes} {σ : System} {after : List Event}

/-- A deletion that takes a principal out takes along what is said, and is for good. -/
theorem Recorded.deletion (h : σ.Recorded env lifetimes) {o : Owner} {out : Outage}
    (hrow : o.id ∈ σ.tables.ids o.table)
    (hgone : o.id ∉
      (σ.step env lifetimes (.administer (.delete o.table o.id) out)).tables.ids o.table) :
    σ.tables.Departure o (σ.step env lifetimes (.administer (.delete o.table o.id) out)).tables ∧
      (σ.step env lifetimes (.administer (.delete o.table o.id) out)).tables.Departed o := by
  have htables : (σ.step env lifetimes (.administer (.delete o.table o.id) out)).tables =
      σ.tables.remove o.table o.id := Act.run_delete hrow hgone
  have hcounts : σ.tables.Counts
      (σ.step env lifetimes (.administer (.delete o.table o.id) out)).tables :=
    htables ▸ .remove σ.tables o.table o.id
  refine ⟨htables ▸ h.integrity.departure o, ?_, hgone⟩
  exact Int.le_trans (h.integrity.id_le_last hrow) (hcounts.last _)

/-- Whoever has obtained a pair when a row has been deleted had obtained it before. -/
theorem obtains_delete {n : TableName} {id : Int} {out : Outage} {i : Nat}
    {p : NewPair × IssuedPair} :
    (σ.step env lifetimes (.administer (.delete n id) out)).Obtains i p ↔ σ.Obtains i p := by
  change _ ∈ σ.log ++ [_] ↔ _
  simp [Obtains]

theorem stored_delete {n : TableName} {id : Int} {out : Outage} :
    (σ.step env lifetimes (.administer (.delete n id) out)).stored = σ.stored :=
  (filterMap_concat ..).trans (List.append_nil _)

/-! ## Requests of a principal that has gone -/

/-- A pair for an owner who has gone has been stored before. -/
theorem log_of_departed {p : NewPair × IssuedPair} (h : σ.tables.Departed p.1.owner) {x : Entry}
    (hx : x.stored? = some p) (hmem : x ∈ (σ.resume env lifetimes after).log) : x ∈ σ.log := by
  obtain ⟨l₁, l₂, hlog⟩ := List.append_of_mem hmem
  rcases resume_log_split hlog with hnew | hold
  · obtain ⟨early, e, late, -, rfl, hstep⟩ := resume_moment hlog hnew
    -- to be stored, it would have needed an owner with a row at that moment
    have howner := ((step_log hstep).stores hx).accepts.owner
    have hcounts := (resume_counts early).trans (.without (σ.resume env lifetimes early).tables
      p.1.supersedes)
    exact absurd (Tables.hasOwner_iff.mp howner) (h.counts hcounts).gone
  · exact hold

theorem obtains_of_departed {i : Nat} {p : NewPair × IssuedPair}
    (h : σ.tables.Departed p.1.owner) (hp : (σ.resume env lifetimes after).Obtains i p) :
    σ.Obtains i p :=
  log_of_departed h rfl hp

theorem stored_of_departed {p : NewPair × IssuedPair} (h : σ.tables.Departed p.1.owner)
    (hp : p ∈ (σ.resume env lifetimes after).stored) : p ∈ σ.stored := by
  obtain ⟨x, hx, hstored⟩ := List.mem_filterMap.mp hp
  exact List.mem_filterMap.mpr ⟨x, log_of_departed h hstored hx, hstored⟩

/-- Where all pairs with a refresh token are of an owner who has gone, the token is refused. -/
theorem Accounted.refused (h : σ.Accounted env lifetimes) {o : Owner} (hgone : σ.tables.Departed o)
    {basic : Option Credentials} {request : TokenRequest}
    (hgrant : request.grantType = GrantType.refreshToken.name)
    (hall : ∀ p ∈ σ.stored, p.1.refreshToken = request.refreshToken.getD "" → p.1.owner = o) :
    ∃ f, σ.served env lifetimes basic request = .error f := by
  cases hserved : σ.served env lifetimes basic request with
  | error f => exact ⟨f, rfl⟩
  | ok res =>
    obtain ⟨k, th, hth, hdone⟩ : ∃ k th, (σ.handle env lifetimes basic request
        (List.replicate k {})).threads[σ.threads.length]? = some th ∧
          th.answer? = some (σ.served env lifetimes basic request) := by
      simp only [handle, List.map_replicate]
      exact exists_served basic request
    obtain ⟨th', hth', -, rfl, -⟩ :=
      h.handle_touches basic request (List.replicate k {})
    rw [hth] at hth'
    cases hth'
    rw [hserved] at hdone
    obtain ⟨r, hr, a, ha, htoken, hid⟩ := h.handle_found hth hdone hgrant
    obtain ⟨p, hp, rfl⟩ := h.ledger.refreshRows r hr
    obtain ⟨q, hq, rfl⟩ := h.ledger.accessRows a ha
    obtain rfl := h.account.eq_of_refreshTokenId hq hp hid
    have hown : (Tables.accessRow q.1 q.2.refreshTokenId q.2.accessTokenId).owner? = some o := by
      rw [← hall q hq htoken]
      exact Owner.ofColumns?_columns _
    exact absurd hown (hgone.owner?_ne h.integrity _ ha)

/-- To delete a principal cuts it off for good.  Whatever has been asked and done before, from the
deletion on, whatever requests are under way or come in and whoever is added, no access token of the
principal is in the store, no request succeeds for it, and its refresh tokens are refused.  The
deletion itself takes out its row and its access tokens with their links, and nothing of anybody
else, be it a user and a client with one number. -/
theorem deletion_cuts_off (env : Surroundings) (lifetimes : Lifetimes) (before after : List Event)
    (o : Owner) (out : Outage) (hrow : o.id ∈ (run env lifetimes before).tables.ids o.table)
    (hgone : o.id ∉ ((run env lifetimes before).step env lifetimes
      (.administer (.delete o.table o.id) out)).tables.ids o.table) :
    let σ := run env lifetimes before
    let σ' := σ.step env lifetimes (.administer (.delete o.table o.id) out)
    let τ := σ'.resume env lifetimes after
    (o.id ∉ τ.tables.ids o.table ∧ ∀ a ∈ τ.tables.accessTokens.rows, a.owner? ≠ some o) ∧
    (∀ i th res, τ.threads[i]? = some th → th.answer? = some (.ok res) →
      ∃ p, τ.Obtains i p ∧ res = p.2.response lifetimes p.1 ∧
        (p.1.owner = o → σ.Obtains i p)) ∧
    (∀ p ∈ τ.stored, p.1.owner = o → p ∈ σ.stored) ∧
    (∀ token, (∀ p ∈ τ.stored, p.1.refreshToken = token → p.1.owner = o) →
      (∀ i th a, τ.threads[i]? = some th →
        th.request.grantType = GrantType.refreshToken.name →
        th.request.refreshToken.getD "" = token → th.answer? = some a →
        (∃ f, a = .error f) ∨ ∃ p, σ.Obtains i p ∧ a = .ok (p.2.response lifetimes p.1)) ∧
      ∀ basic request, request.grantType = GrantType.refreshToken.name →
        request.refreshToken.getD "" = token →
        ∃ f, τ.served env lifetimes basic request = .error f) ∧
    (Function.Injective env.token → (∀ e ∈ before ++ after, ¬ e.putsPair) →
      ∀ p ∈ τ.stored, p.1.owner = o → ∀ q ∈ τ.stored,
        q.1.refreshToken = p.1.refreshToken → q.1.owner = o) ∧
    σ.tables.Departure o σ'.tables ∧
    ∀ a ∈ σ.tables.accessTokens.rows, a.owner? ≠ some o →
      a ∈ σ'.tables.accessTokens.rows ∧ σ'.tables.linksOf a.id = σ.tables.linksOf a.id ∧
        σ'.tables.scopesOf a.id = σ.tables.scopesOf a.id := by
  intro σ σ' τ
  have hσ : σ.Accounted env lifetimes := .run env lifetimes before
  obtain ⟨hdeparture, hdeparted⟩ := hσ.deletion hrow hgone
  have hrun : τ = run env lifetimes (before ++ .administer (.delete o.table o.id) out :: after) :=
    (run_append before (_ :: after)).symm
  have hτ : τ.Accounted env lifetimes := (hσ.step _).resume after
  have hgone' : τ.tables.Departed o := hdeparted.counts (resume_counts after)
  have hobtained {i : Nat} {p : NewPair × IssuedPair} (hp : τ.Obtains i p) (ho : p.1.owner = o) :
      σ.Obtains i p :=
    obtains_delete.mp (obtains_of_departed (ho ▸ hdeparted) hp)
  refine ⟨⟨hgone'.gone, hgone'.owner?_ne hτ.integrity⟩, ?_, ?_, ?_, ?_, hdeparture,
    fun a ↦ hdeparture.stays hσ.integrity⟩
  · intro i th res hth hdone
    obtain ⟨t, pair, now, issued, hturns, -, hres⟩ := hτ.issued hth hdone
    have hp : τ.Obtains i (pair, issued) := by
      rw [Obtains, ← mem_turns, hturns]
      simp [Endpoint.issuing]
    exact ⟨_, hp, hres, hobtained hp⟩
  · intro p hp ho
    exact stored_delete ▸ stored_of_departed (ho ▸ hdeparted) hp
  · rintro token hall
    refine ⟨?_, ?_⟩
    · rintro i th (f | res) hth hg rfl hdone
      · exact .inl ⟨f, rfl⟩
      · obtain ⟨p, hp, q, hq, htoken, hsup, rfl⟩ := hτ.refreshed hth hg hdone
        have howner : q.1.owner = p.1.owner := by
          rw [hrun] at hq hp
          exact hq.owner_eq hp hsup
        exact .inr ⟨q, hobtained hq (howner.trans (hall p hp htoken)), rfl⟩
    · rintro basic request hg rfl
      exact hτ.refused hgone' hg hall
  · intro hinj hown p hp ho q hq htoken
    have hevents : ∀ e ∈ before ++ .administer (.delete o.table o.id) out :: after,
        ¬ e.putsPair := by
      obtain ⟨hbefore, hafter⟩ := List.forall_mem_append.mp hown
      exact List.forall_mem_append.mpr
        ⟨hbefore, List.forall_mem_cons.mpr ⟨Bool.false_ne_true, hafter⟩⟩
    have horderly : τ.Orderly env lifetimes :=
      { hτ.toRecorded with own := hrun ▸ run_own hevents, distinct := hinj }
    rw [horderly.eq_of_stored hq hp htoken, ho]

/-- A user and a client with one name and one number each obtain a pair.  Then two more requests of
the user are under way: one has had its password verified, the other its refresh token and its
access token looked up. -/
def midway : List Event :=
  let password : TokenRequest :=
    { grantType := "password", username := some "ann", password := some "secret" }
  [.administer (.createUser "ann" "secret") {}, .administer (.createClient "ann" "secret") {},
    .arrive none password,
    .arrive (some ⟨"ann", "secret"⟩) { grantType := "client_credentials" },
    .arrive none password,
    .arrive none { grantType := "refresh_token", refreshToken := some "a" }] ++
  List.replicate 6 (.ask 0 {}) ++ List.replicate 6 (.ask 1 {}) ++ List.replicate 2 (.ask 2 {}) ++
    List.replicate 3 (.ask 3 {})

/-- The two requests go on to their ends, and a user is added with the name. -/
def aftermath : List Event :=
  List.replicate 4 (.ask 2 {}) ++ List.replicate 4 (.ask 3 {}) ++
    [.administer (.createUser "ann" "secret") {}]

/-- In between, the user is deleted. -/
theorem deletion_cuts_off_midway :
    let σ := run .counting ⟨60, 3600⟩ midway
    let σ' := σ.step .counting ⟨60, 3600⟩ (.administer (.delete .users 1) {})
    let τ := σ'.resume .counting ⟨60, 3600⟩ aftermath
    let request : TokenRequest := { grantType := "refresh_token", refreshToken := some "a" }
    1 ∈ σ.tables.ids .users ∧ 1 ∉ σ'.tables.ids .users ∧ 2 ∈ τ.tables.ids .users ∧
      (∀ i ∈ [2, 3], (τ.threads[i]?.bind (·.answer?)).map (·.toOption) = some none) ∧
      (∃ r ∈ τ.tables.refreshTokens.rows, r.token = "a") ∧
      (∃ f, τ.served .counting ⟨60, 3600⟩ none request = .error f) ∧
      (∀ a ∈ τ.tables.accessTokens.rows, a.owner? ≠ some (.user 1)) ∧
      ∃ a ∈ σ'.tables.accessTokens.rows, a.owner? = some (.client 1) := by
  have hcut := deletion_cuts_off .counting ⟨60, 3600⟩ midway aftermath (.user 1) {}
    (by decide +kernel) (by decide +kernel)
  dsimp only at hcut ⊢
  obtain ⟨⟨-, hnone⟩, -, -, hrefused, -, -, hstays⟩ := hcut
  refine ⟨by decide +kernel, by decide +kernel, by decide +kernel, by decide +kernel,
    by decide +kernel, ?_, hnone, ?_⟩
  · obtain ⟨-, halone⟩ := hrefused "a" (by decide +kernel)
    exact halone none _ rfl rfl
  · obtain ⟨a, ha, hown, hne⟩ : ∃ a ∈ (run .counting ⟨60, 3600⟩ midway).tables.accessTokens.rows,
        a.owner? = some (.client 1) ∧ a.owner? ≠ some (.user 1) := by decide +kernel
    exact ⟨a, (hstays a ha hne).1, hown⟩

end System

end TokenMint
