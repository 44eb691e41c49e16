import TokenMint.Store.Database

/-! # What statements do

A statement that succeeds has found the database open and everything in place, and has changed the
tables and nothing else.  One lemma for each kind of statement, and for each kind of row that is
added, says which tables come out and what was not in the way. -/

namespace TokenMint.Store

/-! ## Going on after a success -/

section Except

variable {ε ε' α β : Type}

@[simp] theorem mapError_ok (f : ε → ε') (a : α) :
    (Except.ok a : Except ε α).mapError f = .ok a := rfl
@[simp] theorem mapError_error (f : ε → ε') (e : ε) :
    (Except.error e : Except ε α).mapError f = .error (f e) := rfl

/-- Another wording of the error does not touch what succeeds. -/
theorem mapError_eq_ok {x : Except ε α} {f : ε → ε'} {a : α} :
    x.mapError f = .ok a ↔ x = .ok a := by
  cases x <;> simp

theorem mapError_eq_error {x : Except ε α} {f : ε → ε'} {e : ε'} :
    x.mapError f = .error e ↔ ∃ d, x = .error d ∧ f d = e := by
  cases x <;> simp

/-- What goes on after a success succeeds if both parts do. -/
theorem bind_eq_ok {x : Except ε α} {f : α → Except ε β} {b : β} :
    x >>= f = .ok b ↔ ∃ a, x = .ok a ∧ f a = .ok b := by
  cases x <;> simp [bind, Except.bind]

theorem throw_ne_ok {e : ε} {b : β} {f : α → Except ε β} :
    (throw e : Except ε α) >>= f ≠ .ok b := nofun

end Except

/-! ## Rows that are added

A row is added under the next number of its table, if no other has its name or token. -/

namespace Tables

variable {t t' : Tables}

theorem addUser_eq_ok {username hash : String} {id : Int}
    (h : t.addUser username hash = .ok (id, t')) :
    (∀ u ∈ t.users.rows, u.username ≠ username) ∧ id = t.users.next ∧
      t' = { t with users := t.users.add fun id ↦ { id, username, hash } } := by
  unfold addUser at h
  split at h
  · cases h
  · rename_i hno
    cases h
    exact ⟨by simpa using hno, rfl, rfl⟩

theorem addClient_eq_ok {clientId hash : String} {id : Int}
    (h : t.addClient clientId hash = .ok (id, t')) :
    (∀ c ∈ t.clients.rows, c.clientId ≠ clientId) ∧ id = t.clients.next ∧
      t' = { t with clients := t.clients.add fun id ↦ { id, clientId, hash } } := by
  unfold addClient at h
  split at h
  · cases h
  · rename_i hno
    cases h
    exact ⟨by simpa using hno, rfl, rfl⟩

theorem addScope_eq_ok {name : String} {isDefault : Bool} {id : Int}
    (h : t.addScope name isDefault = .ok (id, t')) :
    (∀ s ∈ t.scopes.rows, s.name ≠ name) ∧ id = t.scopes.next ∧
      t' = { t with scopes := t.scopes.add fun id ↦ { id, name, isDefault } } := by
  unfold addScope at h
  split at h
  · cases h
  · rename_i hno
    cases h
    exact ⟨by simpa using hno, rfl, rfl⟩

theorem addRefresh_eq_ok {token : String} {expiry : Expiry} {id : Int}
    (h : t.addRefresh token expiry = .ok (id, t')) :
    (∀ r ∈ t.refreshTokens.rows, r.token ≠ token) ∧ id = t.refreshTokens.next ∧
      t' = { t with refreshTokens := t.refreshTokens.add fun id ↦ { id, token, expiry } } := by
  unfold addRefresh at h
  split at h
  · cases h
  · rename_i hno
    cases h
    exact ⟨by simpa using hno, rfl, rfl⟩

theorem addAccess_eq_ok {token : String} {expiry : Expiry}
    {clientId userId : Option Int} {refreshTokenId id : Int}
    (h : t.addAccess token expiry clientId userId refreshTokenId = .ok (id, t')) :
    (∀ a ∈ t.accessTokens.rows, a.token ≠ token ∧ a.refreshTokenId ≠ refreshTokenId) ∧
      t.ownersExist clientId userId = true ∧ id = t.accessTokens.next ∧
        t' = { t with
          accessTokens := t.accessTokens.add fun id ↦
            { id, token, expiry, clientId, userId, refreshTokenId } } := by
  unfold addAccess at h
  split at h
  · cases h
  · split at h
    · cases h
    · rename_i hno
      split at h
      · cases h
      · rename_i hok
        cases h
        simp only [Bool.and_eq_true, Decidable.not_not] at hok
        exact ⟨by simpa [not_or] using hno, hok.1, rfl, rfl⟩

theorem addLink_eq_ok {accessTokenId scopeId : Int}
    (h : t.addLink accessTokenId scopeId = .ok ((), t')) :
    t' = { t with links := t.links ++ [⟨accessTokenId, scopeId⟩] } := by
  simp only [addLink] at h
  split at h
  · cases h
  · split at h
    · cases h
    · cases h
      rfl

end Tables

/-! ## Insertions and deletions -/

namespace Database

variable {α : Type} {db db' : Database}

theorem insert_eq_ok {t : TableName} {add : Tables → Except Fault (α × Tables)} {a : α} :
    insert t add db = .ok (a, db') ↔
      db.requireWritable (t :: t.parents) = .ok () ∧ (t, .insert) ∉ db.forbidden ∧
        ∃ tables, add db.tables = .ok (a, tables) ∧ db' = { db with tables } := by
  unfold insert
  constructor
  · intro h
    obtain ⟨_, hw, h⟩ := bind_eq_ok.mp h
    split at h
    · exact absurd h throw_ne_ok
    · rename_i hf
      obtain ⟨⟨_, tables⟩, ha, h⟩ := bind_eq_ok.mp h
      cases h
      exact ⟨hw, hf, tables, ha, rfl⟩
  · rintro ⟨hw, hf, tables, ha, rfl⟩
    refine bind_eq_ok.mpr ⟨(), hw, ?_⟩
    rw [if_neg hf]
    exact bind_eq_ok.mpr ⟨(a, tables), ha, rfl⟩

theorem delete_eq_ok {t : TableName} {remove : Tables → Tables} {n : Nat} :
    delete t remove db = .ok (n, db') ↔
      db.requireWritable (db.deletionTables t) = .ok () ∧
        db.allowDeletion TableName.all (remove db.tables) = .ok () ∧
        n = db.tables.count t - (remove db.tables).count t ∧
        db' = { db with tables := remove db.tables } := by
  unfold delete
  constructor
  · intro h
    obtain ⟨_, hw, h⟩ := bind_eq_ok.mp h
    obtain ⟨_, ha, h⟩ := bind_eq_ok.mp h
    cases h
    exact ⟨hw, ha, rfl, rfl⟩
  · rintro ⟨hw, ha, rfl, rfl⟩
    exact bind_eq_ok.mpr ⟨(), hw, bind_eq_ok.mpr ⟨(), ha, rfl⟩⟩

/-- A row is deleted by its number, and with all that refers to it; links have no numbers. -/
theorem deleteRow_eq_ok {t : TableName} {id : Int} {n : Nat}
    (h : deleteRow t id db = .ok (n, db')) :
    n = db.tables.count t - (db.tables.remove t id).count t ∧
      db' = { db with tables := db.tables.remove t id } := by
  unfold deleteRow at h
  split at h
  · obtain ⟨_, _, h⟩ := bind_eq_ok.mp h
    cases h
  · exact (delete_eq_ok.mp h).2.2

end Database

/-! ## Rows that are taken out -/

namespace Tables

variable (t : Tables)

/-- The numbers that the rows of a table have.  Links have none. -/
def ids : TableName → List Int
  | .users => t.users.rows.map (·.id)
  | .clients => t.clients.rows.map (·.id)
  | .scopes => t.scopes.rows.map (·.id)
  | .refreshTokens => t.refreshTokens.rows.map (·.id)
  | .accessTokens => t.accessTokens.rows.map (·.id)
  | .links => []

/-- A row that is deleted is not there any more. -/
theorem not_mem_remove (n : TableName) (id : Int) : id ∉ (t.remove n id).ids n := by
  cases n <;> simp [remove, ids, removeUser, removeClient, removeScope, removeRefresh, removeAccess]

variable {t}

/-- The number of deleted rows tells whether there was one. -/
theorem count_remove_pos {n : TableName} {id : Int} :
    0 < t.count n - (t.remove n id).count n ↔ id ∈ t.ids n := by
  rw [Nat.sub_pos_iff_lt]
  cases n <;>
    simp [remove, ids, count, removeUser, removeClient, removeScope, removeRefresh, removeAccess,
      List.length_filter_lt_length_iff_exists]

end Tables

/-! ## Queries -/

theorem RefreshRow.token?_eq_some {r : RefreshRow} {found : RefreshToken} :
    r.token? = some found ↔
      r.id = found.id ∧ r.token = found.token ∧ r.expiry.instant? = some found.expiresAt := by
  unfold token?
  cases r.expiry.instant? with
  | none => simp
  | some t =>
    obtain ⟨id, token, expiresAt⟩ := found
    simp

theorem AccessRow.token?_eq_some {a : AccessRow} {found : AccessToken} :
    a.token? = some found ↔
      a.id = found.id ∧ a.token = found.token ∧ a.expiry.instant? = some found.expiresAt ∧
        a.clientId = found.clientId ∧ a.userId = found.userId ∧
          a.refreshTokenId = found.refreshTokenId := by
  unfold token?
  cases a.expiry.instant? with
  | none => simp
  | some t =>
    obtain ⟨id, token, expiresAt, clientId, userId, refreshTokenId⟩ := found
    simp

namespace Database

theorem readable_eq_some {ρ α : Type} {read : ρ → Option α} {row : Option ρ} {a : α} :
    readable read row = .ok (some a) ↔ ∃ r, row = some r ∧ read r = some a := by
  cases row with
  | none => simp [readable]
  | some r => cases h : read r <;> simp [readable, h]

/-- A refresh token is found in a row whose expiry can be read. -/
theorem refreshToken?_eq_ok {token : String} {db : Database} {found : RefreshToken}
    (h : refreshToken? token db = .ok (some found)) :
    ∃ r ∈ db.tables.refreshTokens.rows, r.token = token ∧ r.token? = some found := by
  obtain ⟨_, -, h⟩ := bind_eq_ok.mp h
  obtain ⟨r, hrow, hread⟩ := readable_eq_some.mp h
  exact ⟨r, List.mem_of_find?_eq_some hrow, by simpa using List.find?_some hrow, hread⟩

/-- So is the access token that goes with one. -/
theorem accessToken?_eq_ok {id : Int} {db : Database} {found : AccessToken}
    (h : accessToken? id db = .ok (some found)) :
    ∃ a ∈ db.tables.accessTokens.rows, a.refreshTokenId = id ∧ a.token? = some found := by
  obtain ⟨_, -, h⟩ := bind_eq_ok.mp h
  obtain ⟨a, hrow, hread⟩ := readable_eq_some.mp h
  exact ⟨a, List.mem_of_find?_eq_some hrow, by simpa using List.find?_some hrow, hread⟩

end Database

end TokenMint.Store
