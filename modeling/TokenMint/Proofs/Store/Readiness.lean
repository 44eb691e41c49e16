import TokenMint.Proofs.Store.Numbering
import TokenMint.Proofs.Store.Rollback

/-! # What cannot fail

A database that is open, that may be written to, and of which nothing is missing or forbidden runs
every statement that its tables allow.  So without an outage a row that is there is found, and a
pair is stored if what it replaces is there and nothing else stands against it:
`Database.Ready.storePair_of_accepts`. -/

namespace TokenMint.Store

/-- An element that differs from all others in a key is found by it. -/
theorem find?_key {α κ : Type} [DecidableEq κ] {key : α → κ} {l : List α} (h : (l.map key).Nodup)
    {a : α} (ha : a ∈ l) : l.find? (key · = key a) = some a := by
  cases hfind : l.find? (key · = key a) with
  | none => exact absurd (List.find?_eq_none.mp hfind a ha) (by simp)
  | some b =>
    have hkey : key b = key a := by simpa using List.find?_some hfind
    rw [List.inj_on_of_nodup_map h (List.mem_of_find?_eq_some hfind) ha hkey]

/-- An element that differs from all others in a key is the only one with its key. -/
theorem filter_key {α κ : Type} [DecidableEq κ] {key : α → κ} {l : List α} (h : (l.map key).Nodup)
    {a : α} (ha : a ∈ l) : l.filter (key · = key a) = [a] := by
  refine List.perm_singleton.mp ((List.perm_ext_iff_of_nodup ?_ (List.nodup_singleton a)).mpr ?_)
  · exact (List.Nodup.of_map key h).filter _
  · intro b
    rw [List.mem_filter, decide_eq_true_iff, List.mem_singleton]
    constructor
    · rintro ⟨hb, hkey⟩
      exact List.inj_on_of_nodup_map h hb ha hkey
    · rintro rfl
      exact ⟨ha, rfl⟩

namespace Database

/-- Nothing of a database is missing or forbidden, and it may be written to. -/
structure Intact (db : Database) : Prop where
  missing : db.missing = []
  forbidden : db.forbidden = []
  readOnly : db.readOnly = false

/-- A database that is intact and open. -/
structure Ready (db : Database) : Prop extends db.Intact where
  closed : db.closed = false

/-- What stands in the way of statements is not in the tables. -/
theorem Intact.withTables {db : Database} (h : db.Intact) (tables : Tables) :
    ({ db with tables } : Database).Intact :=
  ⟨h.missing, h.forbidden, h.readOnly⟩

namespace Ready

variable {db : Database}

theorem withTables (h : db.Ready) (tables : Tables) : ({ db with tables } : Database).Ready :=
  ⟨h.toIntact.withTables tables, h.closed⟩

theorem require (h : db.Ready) (ts : List TableName) : db.require ts = .ok () := by
  have hfind : (ts.find? fun t ↦ !db.has t) = none := by
    rw [List.find?_eq_none]
    intro t _
    simp [has, h.missing]
  simp [Database.require, h.closed, hfind]

theorem requireWritable (h : db.Ready) (ts : List TableName) : db.requireWritable ts = .ok () := by
  simp [Database.requireWritable, h.require, h.readOnly, bind, Except.bind]
  rfl

/-! ## Statements -/

theorem insert (h : db.Ready) {α : Type} {t : TableName} {f : Tables → Except Fault (α × Tables)}
    {a : α} {tables : Tables} (ha : f db.tables = .ok (a, tables)) :
    Database.insert t f db = .ok (a, { db with tables }) := by
  refine insert_eq_ok.mpr ⟨h.requireWritable _, ?_, tables, ha, rfl⟩
  rw [h.forbidden]
  exact List.not_mem_nil

theorem insert_of_error (h : db.Ready) {α : Type} {t : TableName}
    {f : Tables → Except Fault (α × Tables)} {e : Fault} (he : f db.tables = .error e) :
    Database.insert t f db = .error e := by
  have hallowed : (t, Change.insert) ∉ db.forbidden := by
    rw [h.forbidden]
    exact List.not_mem_nil
  simp [Database.insert, h.requireWritable, hallowed, he, bind, Except.bind]

theorem delete (h : db.Ready) (t : TableName) (remove : Tables → Tables) :
    Database.delete t remove db =
      .ok (db.tables.count t - (remove db.tables).count t,
        { db with tables := remove db.tables }) := by
  refine delete_eq_ok.mpr ⟨h.requireWritable _, ?_, rfl, rfl⟩
  simp [allowDeletion, h.forbidden]

/-! ## Queries -/

theorem refreshToken?_eq_none (h : db.Ready) {token : String}
    (hno : ∀ r ∈ db.tables.refreshTokens.rows, r.token ≠ token) :
    refreshToken? token db = .ok none := by
  have hfind : db.tables.refreshTokens.rows.find? (·.token = token) = none := by
    rw [List.find?_eq_none]
    simpa using hno
  simp [refreshToken?, h.require, hfind, readable, bind, Except.bind]

theorem refreshToken?_eq_some (h : db.Ready) (hi : db.tables.Integrity) {r : RefreshRow}
    (hr : r ∈ db.tables.refreshTokens.rows) {found : RefreshToken} (hread : r.token? = some found) :
    refreshToken? r.token db = .ok (some found) := by
  have hfind : db.tables.refreshTokens.rows.find? (·.token = r.token) = some r :=
    find?_key hi.refreshTokens.keys hr
  simp [refreshToken?, h.require, hfind, readable, hread, bind, Except.bind]

theorem accessToken?_eq_none (h : db.Ready) {id : Int}
    (hno : ∀ a ∈ db.tables.accessTokens.rows, a.refreshTokenId ≠ id) :
    accessToken? id db = .ok none := by
  have hfind : db.tables.accessTokens.rows.find? (·.refreshTokenId = id) = none := by
    rw [List.find?_eq_none]
    simpa using hno
  simp [accessToken?, h.require, hfind, readable, bind, Except.bind]

theorem accessToken?_eq_some (h : db.Ready) (hi : db.tables.Integrity) {a : AccessRow}
    (ha : a ∈ db.tables.accessTokens.rows) {found : AccessToken} (hread : a.token? = some found) :
    accessToken? a.refreshTokenId db = .ok (some found) := by
  have hfind : db.tables.accessTokens.rows.find? (·.refreshTokenId = a.refreshTokenId) = some a :=
    find?_key hi.single ha
  simp [accessToken?, h.require, hfind, readable, hread, bind, Except.bind]

end Ready

end Database

/-! ## Adding rows that nothing stands against -/

namespace Tables

variable (t : Tables)

/-- The tables with the refresh token of a pair. -/
def withRefresh (pair : NewPair) : Tables :=
  { t with refreshTokens := t.refreshTokens.add (refreshRow pair) }

/-- The tables with both tokens of a pair, which have no links yet. -/
def withTokens (pair : NewPair) : Tables :=
  { t.withRefresh pair with
    accessTokens := t.accessTokens.add (accessRow pair t.refreshTokens.next) }

variable {t} {pair : NewPair}

theorem addRefresh_of_free (h : ∀ r ∈ t.refreshTokens.rows, r.token ≠ pair.refreshToken) :
    t.addRefresh pair.refreshToken (.instant pair.refreshExpiresAt) =
      .ok (t.refreshTokens.next, t.withRefresh pair) := by
  have hany : t.refreshTokens.rows.any (·.token = pair.refreshToken) = false := by simpa using h
  rw [Tables.addRefresh, hany]
  rfl

theorem Accepts.addAccess (h : t.Accepts pair) (hi : t.Integrity) :
    (t.withRefresh pair).addAccess pair.accessToken (.instant pair.accessExpiresAt)
        pair.owner.clientId? pair.owner.userId? t.refreshTokens.next =
      .ok (t.accessTokens.next, t.withTokens pair) := by
  have hcheck : pair.owner.clientId?.isSome ≠ pair.owner.userId?.isSome := by
    cases pair.owner <;> simp [Owner.clientId?, Owner.userId?]
  have hany : (t.accessTokens.rows.any fun r ↦
      r.token = pair.accessToken || r.refreshTokenId = t.refreshTokens.next) = false := by
    rw [List.any_eq_false]
    intro a ha
    obtain ⟨r, hr, hid⟩ := hi.refresh a ha
    simpa using ⟨h.accessToken a ha, hid ▸ hi.refreshTokens.ne_next hr⟩
  have howner : (t.withRefresh pair).ownersExist pair.owner.clientId? pair.owner.userId? = true :=
    (ownersExist_iff _ _).mpr h.owner
  have hrefresh :
      (t.withRefresh pair).refreshTokens.rows.any (·.id = t.refreshTokens.next) = true :=
    List.any_eq_true.mpr ⟨_, List.mem_append_right _ (List.mem_singleton_self _), by
      simp [refreshRow]⟩
  rw [Tables.addAccess, if_neg hcheck, if_neg (by rw [Bool.not_eq_true]; exact hany),
    if_neg (by rw [howner, hrefresh]; decide)]
  rfl

theorem addLink_of_not_mem {accessTokenId scopeId : Int}
    (hno : (⟨accessTokenId, scopeId⟩ : Link) ∉ t.links)
    (ha : ∃ a ∈ t.accessTokens.rows, a.id = accessTokenId)
    (hs : ∃ s ∈ t.scopes.rows, s.id = scopeId) :
    t.addLink accessTokenId scopeId =
      .ok ((), { t with links := t.links ++ [⟨accessTokenId, scopeId⟩] }) := by
  have haccess : t.accessTokens.rows.any (·.id = accessTokenId) = true := by simpa using ha
  have hscope : t.scopes.rows.any (·.id = scopeId) = true := by simpa using hs
  simp [addLink, hno, haccess, hscope]

end Tables

/-! ## The transaction of a pair -/

namespace Pair

variable {db : Database} {pair : NewPair}

/-- The three statements that take out a refresh token succeed one after the other, and the last one
finds no row only if there is none. -/
theorem deletes_superseded (h : db.Ready) (id : Int) :
    ∃ links access refresh db₁ db₂,
      Database.delete .links (·.unlink id) db = .ok (links, db₁) ∧
      Database.delete .accessTokens (·.removeAccess (·.refreshTokenId = id)) db₁ =
        .ok (access, db₂) ∧
      Database.delete .refreshTokens (·.removeRefresh id) db₂ =
        .ok (refresh, { db with tables := db.tables.removeRefresh id }) ∧
      (refresh = 0 ↔ id ∉ db.tables.ids .refreshTokens) := by
  have h₁ := h.delete .links (·.unlink id)
  have h₂ := (h.withTables (db.tables.unlink id)).delete .accessTokens
    (·.removeAccess (·.refreshTokenId = id))
  have h₃ := (h.withTables ((db.tables.unlink id).removeAccess (·.refreshTokenId = id))).delete
    .refreshTokens (·.removeRefresh id)
  rw [Tables.removeRefresh_unlink] at h₃
  have hcount : 0 < db.tables.count .refreshTokens -
      (db.tables.removeRefresh id).count .refreshTokens ↔ id ∈ db.tables.ids .refreshTokens :=
    Tables.count_remove_pos
  refine ⟨_, _, _, _, _, h₁, h₂, h₃, ?_⟩
  exact (Nat.le_zero.symm.trans Nat.not_lt.symm).trans (not_congr hcount)

/-- What takes the place of a refresh token is stored if that has a row, and only then. -/
theorem supersede_of_ready (h : db.Ready) (id : Int) :
    supersede .none id db =
      if id ∈ db.tables.ids .refreshTokens then
        .ok ((), { db with tables := db.tables.removeRefresh id })
      else .error (.superseded id) := by
  obtain ⟨_, _, gone, db₁, db₂, h₁, h₂, h₃, hgone⟩ := deletes_superseded h id
  simp only [supersede, attempt, PairOutage.none, bind, StateT.bind, Except.bind, h₁, h₂, h₃,
    mapError_ok]
  by_cases hid : id ∈ db.tables.ids .refreshTokens
  · rw [if_pos hid, if_neg fun hzero ↦ hgone.mp hzero hid]
    rfl
  · rw [if_neg hid, if_pos (hgone.mpr hid)]
    rfl

/-- Room is made for a pair if what it replaces is there. -/
theorem retire_of_ready (h : db.Ready) {supersedes : Option Int}
    (hsup : ∀ id ∈ supersedes, id ∈ db.tables.ids .refreshTokens) :
    retire .none supersedes db = .ok ((), { db with tables := db.tables.without supersedes }) := by
  cases supersedes with
  | none => rfl
  | some id =>
    change supersede .none id db = _
    rw [supersede_of_ready h, if_pos (hsup id rfl)]
    rfl

theorem attach_of_ready (h : db.Ready) {accessTokenId : Int} {ss : List Scope} (k : Nat)
    (hnew : ∀ s ∈ ss, (⟨accessTokenId, s.id⟩ : Link) ∉ db.tables.links)
    (hdistinct : (ss.map (·.id)).Nodup)
    (ha : ∃ a ∈ db.tables.accessTokens.rows, a.id = accessTokenId)
    (hs : ∀ s ∈ ss, ∃ r ∈ db.tables.scopes.rows, r.id = s.id) :
    ∃ db', attach .none accessTokenId k ss db = .ok ((), db') := by
  induction ss generalizing k db with
  | nil => exact ⟨db, rfl⟩
  | cons s ss ih =>
    have hlink := h.insert (t := .links) (f := (·.addLink accessTokenId s.id))
      (Tables.addLink_of_not_mem (hnew s (by simp)) ha (hs s (by simp)))
    rw [List.map_cons, List.nodup_cons] at hdistinct
    have hnew' : ∀ x ∈ ss, (⟨accessTokenId, x.id⟩ : Link) ∉
        db.tables.links ++ [⟨accessTokenId, s.id⟩] := by
      intro x hx hmem
      rcases List.mem_append.mp hmem with hmem | hmem
      · exact hnew x (List.mem_cons_of_mem _ hx) hmem
      · simp only [List.mem_singleton, Link.mk.injEq, true_and] at hmem
        exact hdistinct.1 (List.mem_map.mpr ⟨x, hx, hmem⟩)
    obtain ⟨db', hrest⟩ := ih (h.withTables { db.tables with links := _ }) (k + 1) hnew'
      hdistinct.2 ha fun x hx ↦ hs x (List.mem_cons_of_mem _ hx)
    exact ⟨db', attempt_bind_eq_ok.mpr ⟨(), _, attempt_eq_ok.mpr ⟨rfl, hlink⟩, hrest⟩⟩

theorem begin_of_ready (h : db.Ready) :
    attempt .none .begin (reading Database.health) db = .ok ((), db) :=
  attempt_eq_ok.mpr ⟨rfl, reading_eq_ok.mpr ⟨h.require _, rfl⟩⟩

theorem reading_defaultScopes (h : db.Ready) :
    reading Database.defaultScopes db = .ok (db.tables.defaultScopes, db) :=
  reading_eq_ok.mpr ⟨bind_eq_ok.mpr ⟨(), h.require _, rfl⟩, rfl⟩

/-- What the tables accept is put in. -/
theorem install_of_ready (h : db.Ready) (hi : db.tables.Integrity) (ha : db.tables.Accepts pair) :
    ∃ issued db', install .none pair db = .ok (issued, db') := by
  have hrefresh := h.insert (t := .refreshTokens) (f := (·.addRefresh ..))
    (Tables.addRefresh_of_free ha.refreshToken)
  have hscopes := reading_defaultScopes (h.withTables (db.tables.withRefresh pair))
  have haccess := (h.withTables (db.tables.withRefresh pair)).insert (t := .accessTokens)
    (f := (·.addAccess ..)) (ha.addAccess hi)
  have hnew : ∀ s ∈ db.tables.defaultScopes,
      (⟨db.tables.accessTokens.next, s.id⟩ : Link) ∉ db.tables.links := by
    intro s _ hmem
    obtain ⟨⟨a, hmem, hid⟩, -⟩ := hi.linked _ hmem
    exact hi.accessTokens.ne_next hmem hid
  have hrows : ∀ s ∈ db.tables.defaultScopes, ∃ r ∈ db.tables.scopes.rows, r.id = s.id := by
    intro s hs
    exact ⟨s, List.mem_of_mem_filter ((List.mergeSort_perm _ _).mem_iff.mp hs), rfl⟩
  obtain ⟨db', hlinks⟩ := attach_of_ready (h.withTables (db.tables.withTokens pair)) 0 hnew
    hi.nodup_defaultScopes ⟨_, List.mem_append_right _ (List.mem_singleton_self _), rfl⟩ hrows
  refine ⟨db.tables.nextPair, db', ?_⟩
  refine attempt_bind_eq_ok.mpr ⟨_, _, attempt_eq_ok.mpr ⟨rfl, hrefresh⟩, ?_⟩
  refine attempt_bind_eq_ok.mpr ⟨_, _, attempt_eq_ok.mpr ⟨rfl, hscopes⟩, ?_⟩
  refine attempt_bind_eq_ok.mpr ⟨_, _, attempt_eq_ok.mpr ⟨rfl, haccess⟩, ?_⟩
  exact attempt_bind_eq_ok.mpr ⟨_, _, hlinks, rfl⟩

end Pair

namespace Database.Ready

variable {db : Database} {pair : NewPair}

/-- Without an outage, a pair is stored in a ready database if what it replaces is there and nothing
that remains stands against it. -/
theorem storePair_of_accepts (h : db.Ready) (hi : db.tables.Integrity)
    (hsup : ∀ id ∈ pair.supersedes, id ∈ db.tables.ids .refreshTokens)
    (ha : (db.tables.without pair.supersedes).Accepts pair) :
    ∃ issued db', db.storePair .none pair = (.ok issued, db') := by
  have hretire := Pair.retire_of_ready h hsup
  obtain ⟨issued, db', hinstall⟩ :=
    Pair.install_of_ready (h.withTables _) (hi.without pair.supersedes) ha
  have htransact : Pair.transact .none pair db = .ok (issued, db') := by
    refine Pair.attempt_bind_eq_ok.mpr ⟨_, _, Pair.begin_of_ready h, ?_⟩
    refine Pair.attempt_bind_eq_ok.mpr
      ⟨_, _, Pair.attempt_bind_eq_ok.mpr ⟨_, _, hretire, hinstall⟩, ?_⟩
    exact Pair.attempt_bind_eq_ok.mpr ⟨_, _, Pair.attempt_eq_ok.mpr ⟨rfl, rfl⟩, rfl⟩
  exact ⟨issued, db', by rw [storePair_eq, htransact]⟩

/-- Where the exchange fails, so does the storing of the pair. -/
theorem storePair_of_exchange_eq_error (h : db.Ready) {b : Pair.Breach}
    (hb : Pair.exchange .none pair db = .error b) :
    db.storePair .none pair = (.error b.report, db) := by
  have htransact : Pair.transact .none pair db = .error b := by
    rw [Pair.transact, Pair.attempt_bind_of_ok (Pair.begin_of_ready h)]
    exact Pair.attempt_bind_of_error hb
  rw [storePair_eq, htransact]

/-- A pair cannot take the place of a refresh token that is gone. -/
theorem storePair_of_gone (h : db.Ready) {id : Int} (hsup : pair.supersedes = some id)
    (hid : id ∉ db.tables.ids .refreshTokens) :
    db.storePair .none pair = (.error (.superseded id), db) := by
  have hretire : Pair.retire .none pair.supersedes db = .error (.superseded id) := by
    rw [hsup]
    change Pair.supersede .none id db = _
    rw [Pair.supersede_of_ready h, if_neg hid]
  exact h.storePair_of_exchange_eq_error (Pair.attempt_bind_of_error hretire)

end Database.Ready

end TokenMint.Store
