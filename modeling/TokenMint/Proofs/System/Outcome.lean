import TokenMint.Proofs.System.History

/-! # What comes of storing a pair

When no statement fails for reasons outside the database, the tables alone decide what comes of a
pair: whether it is stored, and if not, which of the things that stand against it is reported.
Several may do so at once, and then the first statement that meets one ends the transaction.  What
is unique is judged as if the refresh token to be replaced were gone already, with the access token
that goes with it. -/

namespace TokenMint

open Store

namespace Store

/-! ## What a pair asks of the tables -/

namespace Tables

variable (t : Tables)

/-- The refresh token that a pair replaces is there, if it replaces one. -/
def HasReplaced (pair : NewPair) : Prop :=
  ∀ id ∈ pair.supersedes, ∃ r ∈ t.refreshTokens.rows, r.id = id

/-- No refresh token has the value of a pair's, but perhaps the one that goes. -/
def RefreshFree (pair : NewPair) : Prop :=
  ∀ r ∈ t.refreshTokens.rows, r.token = pair.refreshToken → pair.supersedes = some r.id

/-- No access token has the value of a pair's, but perhaps the one that goes. -/
def AccessFree (pair : NewPair) : Prop :=
  ∀ a ∈ t.accessTokens.rows, a.token = pair.accessToken → pair.supersedes = some a.refreshTokenId

variable {t} {pair : NewPair}

theorem hasReplaced_iff :
    t.HasReplaced pair ↔ ∀ id ∈ pair.supersedes, id ∈ t.ids .refreshTokens := by
  simp [HasReplaced, ids]

/-- A value is free if nothing that remains has it. -/
theorem refreshFree_iff :
    t.RefreshFree pair ↔
      ∀ r ∈ (t.without pair.supersedes).refreshTokens.rows, r.token ≠ pair.refreshToken := by
  unfold RefreshFree
  cases pair.supersedes with
  | none => simp [without]
  | some id =>
    have hrows : (t.without (some id)).refreshTokens.rows =
        t.refreshTokens.rows.filter (·.id ≠ id) := rfl
    rw [hrows]
    refine forall_congr' fun r ↦ ?_
    rw [List.mem_filter, decide_eq_true_iff, Option.some_inj, eq_comm (a := id)]
    tauto

theorem accessFree_iff :
    t.AccessFree pair ↔
      ∀ a ∈ (t.without pair.supersedes).accessTokens.rows, a.token ≠ pair.accessToken := by
  unfold AccessFree
  cases pair.supersedes with
  | none => simp [without]
  | some id =>
    have hrows : (t.without (some id)).accessTokens.rows =
        t.accessTokens.rows.filter fun a ↦ !decide (a.refreshTokenId = id) := rfl
    rw [hrows]
    refine forall_congr' fun a ↦ ?_
    rw [List.mem_filter, Bool.not_eq_true', decide_eq_false_iff_not, Option.some_inj,
      eq_comm (a := id)]
    tauto

theorem hasOwner_without (supersedes : Option Int) {o : Owner} :
    (t.without supersedes).HasOwner o ↔ t.HasOwner o := by
  cases supersedes <;> cases o <;> rfl

/-- What remains accepts a pair whose values are free and whose owner is there. -/
theorem accepts_without_iff :
    (t.without pair.supersedes).Accepts pair ↔
      t.RefreshFree pair ∧ t.AccessFree pair ∧ t.HasOwner pair.owner := by
  rw [refreshFree_iff, accessFree_iff, ← hasOwner_without pair.supersedes]
  exact ⟨fun h ↦ ⟨h.refreshToken, h.accessToken, h.owner⟩, fun ⟨hr, ha, ho⟩ ↦ ⟨hr, ha, ho⟩⟩

/-! ## Rows that are refused -/

theorem addRefresh_of_taken {token : String} (expiry : Expiry)
    (h : ¬ ∀ r ∈ t.refreshTokens.rows, r.token ≠ token) :
    t.addRefresh token expiry = .error .unique := by
  have hany : t.refreshTokens.rows.any (·.token = token) = true := by simpa using h
  rw [addRefresh, if_pos hany]

/-- The rule of the table is kept by every owner. -/
theorem owner_checked (o : Owner) : o.clientId?.isSome ≠ o.userId?.isSome := by
  cases o <;> simp [Owner.clientId?, Owner.userId?]

theorem addAccess_of_taken {token : String} (expiry : Expiry) (o : Owner) (refreshTokenId : Int)
    (h : ¬ ∀ a ∈ t.accessTokens.rows, a.token ≠ token) :
    t.addAccess token expiry o.clientId? o.userId? refreshTokenId = .error .unique := by
  have hany : (t.accessTokens.rows.any fun r ↦
      r.token = token || r.refreshTokenId = refreshTokenId) = true := by
    simp only [not_forall, not_not] at h
    obtain ⟨a, ha, htoken⟩ := h
    exact List.any_eq_true.mpr ⟨a, ha, by simp [htoken]⟩
  rw [addAccess, if_neg (owner_checked o), if_pos hany]

/-- An access token whose value and refresh token are free is refused for want of its owner. -/
theorem addAccess_of_ownerless {token : String} (expiry : Expiry) {o : Owner} {refreshTokenId : Int}
    (hfree : ∀ a ∈ t.accessTokens.rows, a.token ≠ token ∧ a.refreshTokenId ≠ refreshTokenId)
    (ho : ¬ t.HasOwner o) :
    t.addAccess token expiry o.clientId? o.userId? refreshTokenId = .error .foreignKey := by
  have hany : ¬ (t.accessTokens.rows.any fun r ↦
      r.token = token || r.refreshTokenId = refreshTokenId) = true := by
    simpa [not_or] using hfree
  have howner : t.ownersExist o.clientId? o.userId? = false := by
    rwa [← Bool.not_eq_true, ownersExist_iff]
  rw [addAccess, if_neg (owner_checked o), if_neg hany, howner]
  rfl

end Tables

/-! ## How the transaction ends -/

namespace Pair

variable {α β : Type} {db db' : Database} {pair : NewPair}

/-- Without an outage, a statement that fails is where the transaction ends. -/
theorem attempt_of_error {step : PairStep} {s : Statement α} {f : Fault} (h : s db = .error f) :
    attempt .none step s db = .error (.failed step f) := by
  simp [attempt, PairOutage.none, h]

end Pair

namespace Database.Ready

variable {db : Database} {pair : NewPair}

/-- Once what it replaces is out, all depends on whether the pair can be put in. -/
theorem storePair_of_install_eq_error (h : db.Ready) (hsup : db.tables.HasReplaced pair)
    {b : Pair.Breach}
    (hb : Pair.install .none pair { db with tables := db.tables.without pair.supersedes } =
      .error b) :
    db.storePair .none pair = (.error b.report, db) := by
  have hretire := Pair.retire_of_ready h (Tables.hasReplaced_iff.mp hsup)
  refine h.storePair_of_exchange_eq_error ?_
  rw [Pair.exchange, Pair.attempt_bind_of_ok hretire, hb]

theorem storePair_of_refresh_taken (h : db.Ready) (hsup : db.tables.HasReplaced pair)
    (ht : ¬ db.tables.RefreshFree pair) :
    db.storePair .none pair = (.error (.refreshToken Fault.unique.text), db) := by
  rw [Tables.refreshFree_iff] at ht
  have hadd := (h.withTables (db.tables.without pair.supersedes)).insert_of_error
    (t := .refreshTokens) (f := (·.addRefresh ..))
    (Tables.addRefresh_of_taken (.instant pair.refreshExpiresAt) ht)
  exact h.storePair_of_install_eq_error hsup
    (Pair.attempt_bind_of_error (Pair.attempt_of_error hadd))

/-- What stops the access token stops the pair, once its refresh token has been put in. -/
theorem storePair_of_access_refused (h : db.Ready) (hsup : db.tables.HasReplaced pair)
    (hr : db.tables.RefreshFree pair) {f : Fault}
    (hadd : ((db.tables.without pair.supersedes).withRefresh pair).addAccess pair.accessToken
      (.instant pair.accessExpiresAt) pair.owner.clientId? pair.owner.userId?
      (db.tables.without pair.supersedes).refreshTokens.next = .error f) :
    db.storePair .none pair = (.error (.accessToken f.text), db) := by
  have hready := h.withTables (db.tables.without pair.supersedes)
  have hready' := h.withTables ((db.tables.without pair.supersedes).withRefresh pair)
  have hrefresh := hready.insert (t := .refreshTokens) (f := (·.addRefresh ..))
    (Tables.addRefresh_of_free (Tables.refreshFree_iff.mp hr))
  have hscopes := Pair.reading_defaultScopes hready'
  have haccess := hready'.insert_of_error (t := .accessTokens) (f := (·.addAccess ..)) hadd
  refine h.storePair_of_install_eq_error hsup (b := .failed .addAccess f) ?_
  refine (Pair.attempt_bind_of_ok (Pair.attempt_eq_ok.mpr ⟨rfl, hrefresh⟩)).trans ?_
  refine (Pair.attempt_bind_of_ok (Pair.attempt_eq_ok.mpr ⟨rfl, hscopes⟩)).trans ?_
  exact Pair.attempt_bind_of_error (Pair.attempt_of_error haccess)

/-- A pair whose access token is taken, or else whose owner is missing, is refused for that. -/
theorem storePair_of_access_taken (h : db.Ready) (hsup : db.tables.HasReplaced pair)
    (hr : db.tables.RefreshFree pair) (ha : ¬ db.tables.AccessFree pair) :
    db.storePair .none pair = (.error (.accessToken Fault.unique.text), db) :=
  h.storePair_of_access_refused hsup hr
    (Tables.addAccess_of_taken _ pair.owner _ (mt Tables.accessFree_iff.mpr ha))

theorem storePair_of_ownerless (h : db.Ready) (hi : db.tables.Integrity)
    (hsup : db.tables.HasReplaced pair) (hr : db.tables.RefreshFree pair)
    (ha : db.tables.AccessFree pair) (ho : ¬ db.tables.HasOwner pair.owner) :
    db.storePair .none pair = (.error (.accessToken Fault.foreignKey.text), db) := by
  have hi' := hi.without pair.supersedes
  refine h.storePair_of_access_refused hsup hr (Tables.addAccess_of_ownerless _ ?_ ?_)
  · intro a hmem
    obtain ⟨r, hrow, hid⟩ := hi'.refresh a hmem
    exact ⟨Tables.accessFree_iff.mp ha a hmem, hid ▸ hi'.refreshTokens.ne_next hrow⟩
  · exact mt (Tables.hasOwner_without _).mp ho

/-- A pair is stored exactly if what it replaces is there, its values are free and its owner is
there. -/
theorem storePair_isOk_iff (h : db.Ready) (hi : db.tables.Integrity) :
    (∃ issued db', db.storePair .none pair = (.ok issued, db')) ↔
      db.tables.HasReplaced pair ∧ db.tables.RefreshFree pair ∧ db.tables.AccessFree pair ∧
        db.tables.HasOwner pair.owner := by
  constructor
  · rintro ⟨issued, db', hok⟩
    obtain ⟨-, t', hs, -⟩ := storePair_eq_ok hok
    exact ⟨hs.superseded, Tables.accepts_without_iff.mp hs.accepts⟩
  · rintro ⟨hsup, haccepts⟩
    exact h.storePair_of_accepts hi (Tables.hasReplaced_iff.mp hsup)
      (Tables.accepts_without_iff.mpr haccepts)

end Database.Ready

end Store

/-! ## In every run -/

namespace System

/-- What comes of storing a pair is known beforehand.  At any open store that a run has led to, and
without an outage, the pair is stored if and only if the refresh token that it replaces is there, no
other refresh token has the value of its own, no access token but the one that goes has the value of
its own, and its owner has a row; the two rows then get the next numbers of their tables.  If not,
nothing changes, and the first of these that fails is reported: a refresh token that is gone, then a
refresh token whose value is taken, and then an access token that is taken or nobody's. -/
theorem storePair_outcome (env : Surroundings) (lifetimes : Lifetimes) (events : List Event)
    (hopen : (run env lifetimes events).service.database.closed = false) (pair : NewPair) :
    let db := (run env lifetimes events).service.database
    let t := db.tables
    ((∃ issued db', db.storePair .none pair = (.ok issued, db')) ↔
      t.HasReplaced pair ∧ t.RefreshFree pair ∧ t.AccessFree pair ∧ t.HasOwner pair.owner) ∧
    (∀ issued db', db.storePair .none pair = (.ok issued, db') →
      issued.refreshTokenId = t.refreshTokens.last + 1 ∧
        issued.accessTokenId = t.accessTokens.last + 1) ∧
    (∀ id, pair.supersedes = some id → (∀ r ∈ t.refreshTokens.rows, r.id ≠ id) →
      db.storePair .none pair = (.error (.superseded id), db)) ∧
    (t.HasReplaced pair → ¬ t.RefreshFree pair →
      db.storePair .none pair = (.error (.refreshToken Fault.unique.text), db)) ∧
    (t.HasReplaced pair → t.RefreshFree pair → ¬ t.AccessFree pair →
      db.storePair .none pair = (.error (.accessToken Fault.unique.text), db)) ∧
    (t.HasReplaced pair → t.RefreshFree pair → t.AccessFree pair → ¬ t.HasOwner pair.owner →
      db.storePair .none pair = (.error (.accessToken Fault.foreignKey.text), db)) := by
  intro db t
  have hr : db.Ready := run_ready hopen
  have hi : t.Integrity := run_integrity env lifetimes events
  refine ⟨hr.storePair_isOk_iff hi, fun issued db' hok ↦ ?_, fun id hid hgone ↦ ?_,
    hr.storePair_of_refresh_taken, hr.storePair_of_access_taken, hr.storePair_of_ownerless hi⟩
  · obtain ⟨-, t', hs, -⟩ := Database.storePair_eq_ok hok
    exact ⟨hs.refreshTokenId_eq, hs.accessTokenId_eq⟩
  · refine hr.storePair_of_gone hid fun hmem ↦ ?_
    obtain ⟨r, hrow, hrid⟩ := List.mem_map.mp hmem
    exact hgone r hrow hrid

/-- A user holds a pair. -/
def held : List Event :=
  [.administer (.createUser "ann" "secret") {},
    .administer (.storePair ⟨"old", ⟨9, 0⟩, "older", ⟨9, 0⟩, .user 1, none⟩) {}]

/-- A pair may have the values of the one that it replaces.  One for nobody that has them, and
replaces none, is refused for the first of them; and so is one that replaces what is not there, but
for that. -/
theorem storePair_outcome_held :
    let db := (run .counting ⟨60, 3600⟩ held).service.database
    let pair (o : Owner) (supersedes : Option Int) : NewPair :=
      ⟨"old", ⟨10, 0⟩, "older", ⟨10, 0⟩, o, supersedes⟩
    db.closed = false ∧
      (∃ issued db', db.storePair .none (pair (.user 1) (some 1)) = (.ok issued, db') ∧
        issued.refreshTokenId = 2 ∧ issued.accessTokenId = 2) ∧
      db.storePair .none (pair (.user 7) none) =
        (.error (.refreshToken "UNIQUE constraint failed"), db) ∧
      db.storePair .none (pair (.user 7) (some 1)) =
        (.error (.accessToken "FOREIGN KEY constraint failed"), db) ∧
      db.storePair .none (pair (.user 7) (some 5)) = (.error (.superseded 5), db) := by
  intro db pair
  have hopen : db.closed = false := by decide +kernel
  have hrefresh : db.tables.refreshTokens = ⟨[⟨1, "old", .instant ⟨9, 0⟩⟩], 1⟩ := by decide +kernel
  have haccess : db.tables.accessTokens =
      ⟨[⟨1, "older", .instant ⟨9, 0⟩, none, some 1, 1⟩], 1⟩ := by decide +kernel
  have husers : db.tables.users.rows = [⟨1, "ann", "secret"⟩] := by decide +kernel
  have hreplaced (o : Owner) : db.tables.HasReplaced (pair o (some 1)) := by
    simp [Store.Tables.HasReplaced, pair, hrefresh]
  have hreplacesNone : db.tables.HasReplaced (pair (.user 7) none) := by
    simp [Store.Tables.HasReplaced, pair]
  have hrefreshFree (o : Owner) : db.tables.RefreshFree (pair o (some 1)) := by
    simp [Store.Tables.RefreshFree, pair, hrefresh]
  have haccessFree (o : Owner) : db.tables.AccessFree (pair o (some 1)) := by
    simp [Store.Tables.AccessFree, pair, haccess]
  have hann : db.tables.HasOwner (.user 1) := by simp [Store.Tables.HasOwner, husers]
  have hnobody : ¬ db.tables.HasOwner (.user 7) := by simp [Store.Tables.HasOwner, husers]
  have htaken : ¬ db.tables.RefreshFree (pair (.user 7) none) := by
    simp [Store.Tables.RefreshFree, pair, hrefresh]
  have houtcome := storePair_outcome .counting ⟨60, 3600⟩ held hopen
  refine ⟨hopen, ?_, (houtcome _).2.2.2.1 hreplacesNone htaken,
    (houtcome _).2.2.2.2.2 (hreplaced _) (hrefreshFree _) (haccessFree _) hnobody,
    (houtcome (pair (.user 7) (some 5))).2.2.1 5 rfl ?_⟩
  · obtain ⟨hiff, hids, -⟩ := houtcome (pair (.user 1) (some 1))
    obtain ⟨issued, db', hok⟩ :=
      hiff.mpr ⟨hreplaced _, hrefreshFree _, haccessFree _, hann⟩
    obtain ⟨hrid, haid⟩ := hids issued db' hok
    exact ⟨issued, db', hok, hrid.trans (by rw [hrefresh]; rfl), haid.trans (by rw [haccess]; rfl)⟩
  · change ∀ r ∈ db.tables.refreshTokens.rows, r.id ≠ 5
    simp [hrefresh]

end System

end TokenMint
