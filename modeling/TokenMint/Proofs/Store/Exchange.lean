import Mathlib.Data.List.Basic
import TokenMint.Proofs.Store.Attempt

/-! # What a stored pair changes

A transaction that succeeds has run all its statements.  They take out the refresh token to be
replaced with everything issued along with it, and then put in one row for each token and one link
for each default scope: `Pair.transact_eq_ok`. -/

namespace TokenMint.Store

/-! ## Pairs in the tables -/

namespace Tables

variable (t : Tables)

/-- The tables without a refresh token and all that was issued along with it. -/
def without : Option Int → Tables
  | none => t
  | some id => t.removeRefresh id

/-- The rows that the next pair gets, and its scopes. -/
def nextPair : IssuedPair :=
  { accessTokenId := t.accessTokens.next
    refreshTokenId := t.refreshTokens.next
    scopes := t.defaultScopes }

/-- The row of a pair's refresh token, under a number. -/
def refreshRow (pair : NewPair) (id : Int) : RefreshRow :=
  { id, token := pair.refreshToken, expiry := .instant pair.refreshExpiresAt }

/-- The row of a pair's access token, under a number and with the number of its refresh token. -/
def accessRow (pair : NewPair) (refreshTokenId id : Int) : AccessRow :=
  { id
    token := pair.accessToken
    expiry := .instant pair.accessExpiresAt
    clientId := pair.owner.clientId?
    userId := pair.owner.userId?
    refreshTokenId }

/-- The tables with a pair, linked to the default scopes. -/
def withPair (pair : NewPair) : Tables :=
  { t with
    refreshTokens := t.refreshTokens.add (refreshRow pair)
    accessTokens := t.accessTokens.add (accessRow pair t.refreshTokens.next)
    links := t.links ++ t.defaultScopes.map fun s ↦ ⟨t.accessTokens.next, s.id⟩ }

/-- Whether an owner has a row. -/
def HasOwner : Owner → Prop
  | .client id => ∃ c ∈ t.clients.rows, c.id = id
  | .user id => ∃ u ∈ t.users.rows, u.id = id

/-- There is nothing in the tables that stands against a pair. -/
structure Accepts (pair : NewPair) : Prop where
  refreshToken : ∀ r ∈ t.refreshTokens.rows, r.token ≠ pair.refreshToken
  accessToken : ∀ a ∈ t.accessTokens.rows, a.token ≠ pair.accessToken
  owner : t.HasOwner pair.owner

/-- A pair is stored: what it replaces is there and goes, nothing that remains stands against the
pair, and it gets the next rows. -/
structure Stores (pair : NewPair) (issued : IssuedPair) (t' : Tables) : Prop where
  superseded : ∀ id, pair.supersedes = some id → ∃ r ∈ t.refreshTokens.rows, r.id = id
  accepts : (t.without pair.supersedes).Accepts pair
  issued_eq : issued = (t.without pair.supersedes).nextPair
  tables_eq : t' = (t.without pair.supersedes).withPair pair

theorem ownersExist_iff (o : Owner) :
    t.ownersExist o.clientId? o.userId? = true ↔ t.HasOwner o := by
  cases o <;> simp [ownersExist, HasOwner, Owner.clientId?, Owner.userId?]

/-! ### Taking pairs out -/

/-- Taking out links, access token and refresh token one after the other is taking out the refresh
token with all that refers to it. -/
theorem removeRefresh_unlink (id : Int) :
    ((t.unlink id).removeAccess (·.refreshTokenId = id)).removeRefresh id = t.removeRefresh id := by
  have hany : ∀ rows : List AccessRow, (rows.any fun _ ↦ false) = false := by simp
  simp [removeRefresh, removeAccess, unlink, Table.keep, List.filter_filter, ← Bool.and_assoc, hany]

end Tables

/-! ## Successful attempts -/

namespace Pair

variable {α β : Type} {outage : PairOutage} {pair : NewPair} {db db' : Database}

theorem attempt_eq_ok {step : PairStep} {s : Statement α} {a : α} :
    attempt outage step s db = .ok (a, db') ↔ outage step = none ∧ s db = .ok (a, db') := by
  unfold attempt
  cases outage step with
  | some f => simp
  | none => cases s db <;> simp

/-- What goes on after a success succeeds if both parts do. -/
theorem attempt_bind_eq_ok {a : Attempt α} {g : α → Attempt β} {b : β} :
    (a >>= g) db = .ok (b, db') ↔ ∃ x db₁, a db = .ok (x, db₁) ∧ g x db₁ = .ok (b, db') := by
  rw [show (a >>= g) db = a db >>= fun p ↦ g p.1 p.2 from rfl, bind_eq_ok, Prod.exists]

theorem attempt_bind_of_ok {a : Attempt α} {g : α → Attempt β} {x : α} (h : a db = .ok (x, db')) :
    (a >>= g) db = g x db' := by
  simp [bind, StateT.bind, h, Except.bind]

theorem attempt_bind_of_error {a : Attempt α} {g : α → Attempt β} {b : Breach}
    (h : a db = .error b) : (a >>= g) db = .error b := by
  simp [bind, StateT.bind, h, Except.bind]

/-- Reading changes nothing. -/
theorem reading_eq_ok {q : Query α} {a : α} :
    reading q db = .ok (a, db') ↔ q db = .ok a ∧ db' = db := by
  unfold reading
  cases q db <;> simp [bind, Except.bind, pure, Except.pure, eq_comm]

theorem supersede_eq_ok {id : Int} (h : supersede outage id db = .ok ((), db')) :
    (∀ step ∈ [PairStep.unlink, .dropAccess, .dropRefresh], outage step = none) ∧
      (∃ r ∈ db.tables.refreshTokens.rows, r.id = id) ∧
        db' = { db with tables := db.tables.removeRefresh id } := by
  obtain ⟨_, db₁, h₁, h⟩ := attempt_bind_eq_ok.mp h
  obtain ⟨_, db₂, h₂, h⟩ := attempt_bind_eq_ok.mp h
  obtain ⟨gone, db₃, h₃, h⟩ := attempt_bind_eq_ok.mp h
  obtain ⟨o₁, h₁⟩ := attempt_eq_ok.mp h₁
  obtain ⟨o₂, h₂⟩ := attempt_eq_ok.mp h₂
  obtain ⟨o₃, h₃⟩ := attempt_eq_ok.mp h₃
  obtain ⟨_, _, _, rfl⟩ := Database.delete_eq_ok.mp h₁
  obtain ⟨_, _, _, rfl⟩ := Database.delete_eq_ok.mp h₂
  obtain ⟨_, _, hgone, rfl⟩ := Database.delete_eq_ok.mp h₃
  split at h
  · cases h
  · rename_i hne
    cases h
    have hid : id ∈ db.tables.ids .refreshTokens :=
      Tables.count_remove_pos.mp (Nat.pos_of_ne_zero (hgone ▸ hne))
    refine ⟨by simp [o₁, o₂, o₃], List.mem_map.mp hid, ?_⟩
    rw [Tables.removeRefresh_unlink]

theorem retire_eq_ok {supersedes : Option Int} (h : retire outage supersedes db = .ok ((), db')) :
    (∀ id, supersedes = some id →
      (∀ step ∈ [PairStep.unlink, .dropAccess, .dropRefresh], outage step = none) ∧
        ∃ r ∈ db.tables.refreshTokens.rows, r.id = id) ∧
      db' = { db with tables := db.tables.without supersedes } := by
  cases supersedes with
  | none =>
    cases h
    exact ⟨nofun, rfl⟩
  | some id =>
    obtain ⟨ho, hr, hdb⟩ := supersede_eq_ok h
    exact ⟨by rintro _ ⟨⟩; exact ⟨ho, hr⟩, hdb⟩

theorem attach_eq_ok {accessTokenId : Int} {k : Nat} {ss : List Scope}
    (h : attach outage accessTokenId k ss db = .ok ((), db')) :
    (∀ j < ss.length, outage (.link (k + j)) = none) ∧
      db' = { db with
        tables.links := db.tables.links ++ ss.map fun s ↦ ⟨accessTokenId, s.id⟩ } := by
  induction ss generalizing k db with
  | nil =>
    cases h
    simp
  | cons s ss ih =>
    obtain ⟨_, db₁, h₁, h⟩ := attempt_bind_eq_ok.mp h
    obtain ⟨o, h₁⟩ := attempt_eq_ok.mp h₁
    obtain ⟨_, _, tables, ha, rfl⟩ := Database.insert_eq_ok.mp h₁
    obtain ⟨ho, rfl⟩ := ih h
    refine ⟨?_, ?_⟩
    · rintro (_ | j) hj
      · exact o
      · rw [Nat.add_comm j 1, ← Nat.add_assoc]
        exact ho j (Nat.lt_of_succ_lt_succ hj)
    · cases Tables.addLink_eq_ok ha
      simp

theorem install_eq_ok {issued : IssuedPair} (h : install outage pair db = .ok (issued, db')) :
    (∀ step ∈ [PairStep.addRefresh, .readScopes, .addAccess], outage step = none) ∧
      (∀ j < db.tables.defaultScopes.length, outage (.link j) = none) ∧
        db.tables.Accepts pair ∧ issued = db.tables.nextPair ∧
          db' = { db with tables := db.tables.withPair pair } := by
  obtain ⟨_, db₁, h₁, h⟩ := attempt_bind_eq_ok.mp h
  obtain ⟨_, db₂, h₂, h⟩ := attempt_bind_eq_ok.mp h
  obtain ⟨_, db₃, h₃, h⟩ := attempt_bind_eq_ok.mp h
  obtain ⟨_, db₄, h₄, h⟩ := attempt_bind_eq_ok.mp h
  obtain ⟨o₁, h₁⟩ := attempt_eq_ok.mp h₁
  obtain ⟨o₂, h₂⟩ := attempt_eq_ok.mp h₂
  obtain ⟨o₃, h₃⟩ := attempt_eq_ok.mp h₃
  obtain ⟨_, _, t₁, ha₁, rfl⟩ := Database.insert_eq_ok.mp h₁
  obtain ⟨hq, rfl⟩ := reading_eq_ok.mp h₂
  obtain ⟨_, _, t₃, ha₃, rfl⟩ := Database.insert_eq_ok.mp h₃
  obtain ⟨o₄, rfl⟩ := attach_eq_ok h₄
  obtain ⟨hr, rfl, rfl⟩ := Tables.addRefresh_eq_ok ha₁
  obtain ⟨ha, hown, rfl, rfl⟩ := Tables.addAccess_eq_ok ha₃
  obtain ⟨_, _, hq⟩ := bind_eq_ok.mp hq
  cases hq
  cases h
  refine ⟨by simp [o₁, o₂, o₃], fun j hj ↦ ?_, ⟨hr, fun a h ↦ (ha a h).1, ?_⟩, rfl, rfl⟩
  · rw [← Nat.zero_add j]
    exact o₄ j hj
  · exact (Tables.ownersExist_iff _ pair.owner).mp hown

/-- The statements of the transaction of a pair, in their order. -/
def steps (pair : NewPair) (t : Tables) : List PairStep :=
  .begin :: (if pair.supersedes.isSome then [.unlink, .dropAccess, .dropRefresh] else []) ++
    [.addRefresh, .readScopes, .addAccess] ++ (List.range t.defaultScopes.length).map .link ++
      [.commit]

theorem transact_eq_ok {issued : IssuedPair} (h : transact outage pair db = .ok (issued, db')) :
    (∀ step ∈ steps pair db.tables, outage step = none) ∧
      ∃ t', db.tables.Stores pair issued t' ∧ db' = { db with tables := t' } := by
  obtain ⟨_, db₁, h₁, h⟩ := attempt_bind_eq_ok.mp h
  obtain ⟨_, db₂, h₂, h⟩ := attempt_bind_eq_ok.mp h
  obtain ⟨_, db₃, h₃, h⟩ := attempt_bind_eq_ok.mp h
  obtain ⟨_, db₄, h₄, h₂⟩ := attempt_bind_eq_ok.mp h₂
  obtain ⟨o₁, h₁⟩ := attempt_eq_ok.mp h₁
  obtain ⟨o₃, h₃⟩ := attempt_eq_ok.mp h₃
  obtain ⟨_, rfl⟩ := reading_eq_ok.mp h₁
  obtain ⟨hs, rfl⟩ := retire_eq_ok h₄
  obtain ⟨oi, ol, ha, hi, rfl⟩ := install_eq_ok h₂
  cases h₃
  cases h
  have hd : (db₁.tables.without pair.supersedes).defaultScopes = db₁.tables.defaultScopes := by
    cases pair.supersedes <;> rfl
  refine ⟨?_, _, ⟨fun id hid ↦ (hs id hid).2, ha, hi, rfl⟩, rfl⟩
  intro step hstep
  simp only [steps, List.cons_append, List.mem_cons, List.mem_append] at hstep
  rcases hstep with rfl | ((hsup | hnew) | hlink) | hend
  · exact o₁
  · split at hsup
    · rename_i hsome
      obtain ⟨id, hid⟩ := Option.isSome_iff_exists.mp hsome
      exact (hs id hid).1 step hsup
    · cases hsup
  · exact oi step (by simpa using hnew)
  · obtain ⟨k, hk, rfl⟩ := List.mem_map.mp hlink
    exact ol k (by rw [hd]; exact List.mem_range.mp hk)
  · rcases hend with rfl | hend
    · exact o₃
    · cases hend

end Pair

namespace Database

variable {db db' : Database} {outage : PairOutage} {pair : NewPair}

theorem storePair_eq_ok {issued : IssuedPair}
    (h : db.storePair outage pair = (.ok issued, db')) :
    (∀ step ∈ Pair.steps pair db.tables, outage step = none) ∧
      ∃ t', db.tables.Stores pair issued t' ∧ db' = { db with tables := t' } := by
  rw [storePair_eq] at h
  split at h
  · rename_i ht
    cases h
    exact Pair.transact_eq_ok ht
  · cases h

end Database

end TokenMint.Store
