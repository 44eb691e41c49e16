import TokenMint.Proofs.Store.Ledger
import TokenMint.Proofs.Store.Numbering

/-! # What is left of stored pairs

The ledger says where rows for tokens come from.  Here it is said when they are still there: the row
of a refresh token until it is replaced or deleted, the row of an access token until that happens or
it is deleted itself or its owner is.  Nothing else takes a row out, and what has gone stays out. -/

namespace TokenMint.Store

/-! ## The rows that a row stands on -/

/-- The rows, each by table and number, that a row for a refresh token goes with. -/
def RefreshRow.anchors (r : RefreshRow) : List (TableName × Int) := [(.refreshTokens, r.id)]

/-- The rows, each by table and number, that a row for an access token goes with. -/
def AccessRow.anchors (a : AccessRow) : List (TableName × Int) :=
  a.clientId.toList.map (.clients, ·) ++ a.userId.toList.map (.users, ·) ++
    [(.refreshTokens, a.refreshTokenId), (.accessTokens, a.id)]

namespace Tables

variable {t t' : Tables} {pair : NewPair} {issued : IssuedPair}

theorem anchors_accessRow (pair : NewPair) (refreshTokenId id : Int) :
    (accessRow pair refreshTokenId id).anchors =
      [(pair.owner.table, pair.owner.id), (.refreshTokens, refreshTokenId),
        (.accessTokens, id)] := by
  obtain ⟨_, _, _, _, owner, _⟩ := pair
  cases owner <;> rfl

theorem mem_remove_refreshTokens {n : TableName} {id : Int} {r : RefreshRow} :
    r ∈ (t.remove n id).refreshTokens.rows ↔ r ∈ t.refreshTokens.rows ∧ (n, id) ∉ r.anchors := by
  cases n <;> simp [remove, removeUser, removeClient, removeScope, removeRefresh, removeAccess,
    RefreshRow.anchors, @eq_comm _ id]

theorem mem_remove_accessTokens {n : TableName} {id : Int} {a : AccessRow} :
    a ∈ (t.remove n id).accessTokens.rows ↔ a ∈ t.accessTokens.rows ∧ (n, id) ∉ a.anchors := by
  cases n <;> simp [remove, removeUser, removeClient, removeScope, removeRefresh, removeAccess,
    AccessRow.anchors, @eq_comm _ id]

theorem refresh_anchors {r : RefreshRow} (hr : r ∈ t.refreshTokens.rows) :
    ∀ x ∈ r.anchors, x.2 ∈ t.ids x.1 := by
  intro x hx
  obtain rfl := List.mem_singleton.mp hx
  exact List.mem_map_of_mem hr

/-- All that a row for an access token stands on is there. -/
theorem Integrity.access_anchors (h : t.Integrity) {a : AccessRow}
    (ha : a ∈ t.accessTokens.rows) : ∀ x ∈ a.anchors, x.2 ∈ t.ids x.1 := by
  intro x hx
  obtain ⟨o, hc, hu, ho⟩ := h.owner a ha
  obtain ⟨r, hr, hid⟩ := h.refresh a ha
  have hanchors : a.anchors =
      [(o.table, o.id), (.refreshTokens, a.refreshTokenId), (.accessTokens, a.id)] := by
    rw [AccessRow.anchors, hc, hu]
    cases o <;> rfl
  rw [hanchors] at hx
  simp only [List.mem_cons, List.not_mem_nil, or_false] at hx
  rcases hx with rfl | rfl | rfl
  · exact hasOwner_iff.mp ho
  · exact List.mem_map.mpr ⟨r, hr, hid⟩
  · exact List.mem_map_of_mem ha

/-! ## The rows of a stored pair -/

theorem Stores.refreshTokenId_eq (h : t.Stores pair issued t') :
    issued.refreshTokenId = t.last .refreshTokens + 1 := by
  rw [h.issued_eq]
  cases pair.supersedes <;> rfl

theorem Stores.accessTokenId_eq (h : t.Stores pair issued t') :
    issued.accessTokenId = t.last .accessTokens + 1 := by
  rw [h.issued_eq]
  cases pair.supersedes <;> rfl

/-- A stored pair takes out the row that it replaces, and gets a new one. -/
theorem Stores.refreshRows (h : t.Stores pair issued t') :
    t'.refreshTokens.rows = t.refreshTokens.rows.filter (some ·.id ≠ pair.supersedes) ++
      [refreshRow pair issued.refreshTokenId] := by
  rw [h.issued_eq, h.tables_eq]
  refine congrArg (· ++ [_]) ?_
  cases pair.supersedes with
  | none => simp [without]
  | some id => simp [without, removeRefresh, removeAccess]

theorem Stores.accessRows (h : t.Stores pair issued t') :
    t'.accessTokens.rows =
      t.accessTokens.rows.filter (some ·.refreshTokenId ≠ pair.supersedes) ++
        [accessRow pair issued.refreshTokenId issued.accessTokenId] := by
  rw [h.issued_eq, h.tables_eq]
  refine congrArg (· ++ [_]) ?_
  cases pair.supersedes with
  | none => simp [without]
  | some id => simp [without, removeRefresh, removeAccess]

theorem Stores.mem_refreshTokens (h : t.Stores pair issued t') {r : RefreshRow} :
    r ∈ t'.refreshTokens.rows ↔ r ∈ t.refreshTokens.rows ∧ pair.supersedes ≠ some r.id ∨
      r = refreshRow pair issued.refreshTokenId := by
  simp [h.refreshRows, @eq_comm _ pair.supersedes]

theorem Stores.mem_accessTokens (h : t.Stores pair issued t') {a : AccessRow} :
    a ∈ t'.accessTokens.rows ↔
      a ∈ t.accessTokens.rows ∧ pair.supersedes ≠ some a.refreshTokenId ∨
        a = accessRow pair issued.refreshTokenId issued.accessTokenId := by
  simp [h.accessRows, @eq_comm _ pair.supersedes]

end Tables

/-! ## The account -/

/-- The refresh tokens that some pairs have replaced, by number. -/
def superseded (l : List (NewPair × IssuedPair)) : List Int := l.filterMap (·.1.supersedes)

theorem mem_superseded {l : List (NewPair × IssuedPair)} {id : Int} :
    id ∈ superseded l ↔ ∃ p ∈ l, p.1.supersedes = some id :=
  List.mem_filterMap

theorem mem_superseded_concat {l : List (NewPair × IssuedPair)} {pair : NewPair}
    {issued : IssuedPair} {id : Int} :
    id ∈ superseded (l ++ [(pair, issued)]) ↔ id ∈ superseded l ∨ pair.supersedes = some id := by
  cases h : pair.supersedes <;> simp [superseded, h, eq_comm]

/-- The pairs stored so far and the rows deleted so far settle which of the pairs have rows. -/
structure Account (t : Tables) (l : List (NewPair × IssuedPair)) (d : List (TableName × Int)) :
    Prop where
  refreshIds : (l.map (·.2.refreshTokenId)).Nodup
  accessIds : (l.map (·.2.accessTokenId)).Nodup
  /-- The owners of all pairs have been given their numbers. -/
  owners : ∀ p ∈ l, p.1.owner.id ≤ t.last p.1.owner.table
  /-- What has been deleted is gone, and will not come back. -/
  deleted : ∀ x ∈ d, x.2 ≤ t.last x.1 ∧ x.2 ∉ t.ids x.1
  refreshRow : ∀ p ∈ l, Tables.refreshRow p.1 p.2.refreshTokenId ∈ t.refreshTokens.rows ↔
    p.2.refreshTokenId ∉ superseded l ∧
      ∀ x ∈ (Tables.refreshRow p.1 p.2.refreshTokenId).anchors, x ∉ d
  accessRow : ∀ p ∈ l,
    Tables.accessRow p.1 p.2.refreshTokenId p.2.accessTokenId ∈ t.accessTokens.rows ↔
      p.2.refreshTokenId ∉ superseded l ∧
        ∀ x ∈ (Tables.accessRow p.1 p.2.refreshTokenId p.2.accessTokenId).anchors, x ∉ d

namespace Account

variable {t t' : Tables} {l : List (NewPair × IssuedPair)} {d d' : List (TableName × Int)}

/-- To begin with there are no tokens. -/
theorem empty (t : Tables) : Account t [] [] where
  refreshIds := List.nodup_nil
  accessIds := List.nodup_nil
  owners _ h := absurd h List.not_mem_nil
  deleted _ h := absurd h List.not_mem_nil
  refreshRow _ h := absurd h List.not_mem_nil
  accessRow _ h := absurd h List.not_mem_nil

/-- Pairs with the same number are the same. -/
theorem eq_of_refreshTokenId (h : Account t l d) {p q : NewPair × IssuedPair} (hp : p ∈ l)
    (hq : q ∈ l) (heq : p.2.refreshTokenId = q.2.refreshTokenId) : p = q :=
  List.inj_on_of_nodup_map h.refreshIds hp hq heq

theorem eq_of_accessTokenId (h : Account t l d) {p q : NewPair × IssuedPair} (hp : p ∈ l)
    (hq : q ∈ l) (heq : p.2.accessTokenId = q.2.accessTokenId) : p = q :=
  List.inj_on_of_nodup_map h.accessIds hp hq heq

/-- What gives out new numbers, but not to tokens, leaves the account as it is. -/
theorem counts (h : Account t l d) (hc : t.Counts t')
    (hr : t'.refreshTokens.rows = t.refreshTokens.rows)
    (ha : t'.accessTokens.rows = t.accessTokens.rows) : Account t' l d where
  refreshIds := h.refreshIds
  accessIds := h.accessIds
  owners p hp := Int.le_trans (h.owners p hp) (hc.last _)
  deleted x hx := by
    obtain ⟨hle, hno⟩ := h.deleted x hx
    exact ⟨Int.le_trans hle (hc.last _), hc.not_mem hle hno⟩
  refreshRow := hr ▸ h.refreshRow
  accessRow := ha ▸ h.accessRow

/-- A deletion is entered if there was a row to delete. -/
theorem remove (h : Account t l d) (hi : t.Integrity) (n : TableName) (id : Int)
    (hd : ∀ x, x ∈ d' ↔ x ∈ d ∨ x = (n, id) ∧ id ∈ t.ids n) : Account (t.remove n id) l d' where
  refreshIds := h.refreshIds
  accessIds := h.accessIds
  owners p hp := Int.le_trans (h.owners p hp) ((Tables.Counts.remove t n id).last _)
  deleted x hx := by
    have hc := Tables.Counts.remove t n id
    rcases (hd x).mp hx with hx | ⟨rfl, hid⟩
    · obtain ⟨hle, hno⟩ := h.deleted x hx
      exact ⟨Int.le_trans hle (hc.last _), hc.not_mem hle hno⟩
    · exact ⟨Int.le_trans (hi.id_le_last hid) (hc.last _), t.not_mem_remove n id⟩
  refreshRow p hp := by
    rw [Tables.mem_remove_refreshTokens, h.refreshRow p hp]
    constructor
    · rintro ⟨⟨hsup, hno⟩, hne⟩
      refine ⟨hsup, fun x hx hmem ↦ ?_⟩
      rcases (hd x).mp hmem with hmem | ⟨rfl, -⟩
      · exact hno x hx hmem
      · exact hne hx
    · rintro ⟨hsup, hno⟩
      have hold : ∀ x ∈ _, x ∉ d := fun x hx hmem ↦ hno x hx ((hd x).mpr (.inl hmem))
      refine ⟨⟨hsup, hold⟩, fun hx ↦ hno _ hx ((hd _).mpr (.inr ⟨rfl, ?_⟩))⟩
      exact Tables.refresh_anchors ((h.refreshRow p hp).mpr ⟨hsup, hold⟩) _ hx
  accessRow p hp := by
    rw [Tables.mem_remove_accessTokens, h.accessRow p hp]
    constructor
    · rintro ⟨⟨hsup, hno⟩, hne⟩
      refine ⟨hsup, fun x hx hmem ↦ ?_⟩
      rcases (hd x).mp hmem with hmem | ⟨rfl, -⟩
      · exact hno x hx hmem
      · exact hne hx
    · rintro ⟨hsup, hno⟩
      have hold : ∀ x ∈ _, x ∉ d := fun x hx hmem ↦ hno x hx ((hd x).mpr (.inl hmem))
      refine ⟨⟨hsup, hold⟩, fun hx ↦ hno _ hx ((hd _).mpr (.inr ⟨rfl, ?_⟩))⟩
      exact hi.access_anchors ((h.accessRow p hp).mpr ⟨hsup, hold⟩) _ hx

section Stores

variable {pair : NewPair} {issued : IssuedPair}

theorem deleted_of_stores (h : Account t l d) (hs : t.Stores pair issued t') :
    ∀ x ∈ d, x.2 ≤ t'.last x.1 ∧ x.2 ∉ t'.ids x.1 := by
  intro x hx
  have hc : t.Counts t' := .moves (.store hs)
  obtain ⟨hle, hno⟩ := h.deleted x hx
  exact ⟨Int.le_trans hle (hc.last _), hc.not_mem hle hno⟩

/-- The refresh token of a new pair has not been replaced by an old one, nor by the new one. -/
theorem new_not_superseded (hi : t.Integrity) (hl : Ledger t l) (hs : t.Stores pair issued t') :
    issued.refreshTokenId ∉ superseded (l ++ [(pair, issued)]) := by
  intro hmem
  have hle : issued.refreshTokenId ≤ t.last .refreshTokens := by
    rcases mem_superseded_concat.mp hmem with hold | hnew
    · obtain ⟨p, hp, hid⟩ := mem_superseded.mp hold
      exact (hl.gone p hp _ hid).1
    · obtain ⟨r, hr, hid⟩ := hs.superseded _ hnew
      exact hi.id_le_last (n := .refreshTokens) (List.mem_map.mpr ⟨r, hr, hid⟩)
  rw [hs.refreshTokenId_eq] at hle
  omega

/-- A stored pair is entered with rows for both of its tokens. -/
theorem stores (h : Account t l d) (hi : t.Integrity) (hl : Ledger t l)
    (hs : t.Stores pair issued t') : Account t' (l ++ [(pair, issued)]) d := by
  have hrefresh : ∀ p ∈ l, p.2.refreshTokenId ≠ issued.refreshTokenId := by
    intro p hp
    rw [hs.refreshTokenId_eq]
    exact Int.ne_of_lt (Int.lt_add_one_of_le (hl.counted p hp).1)
  have haccess : ∀ p ∈ l, p.2.accessTokenId ≠ issued.accessTokenId := by
    intro p hp
    rw [hs.accessTokenId_eq]
    exact Int.ne_of_lt (Int.lt_add_one_of_le (hl.counted p hp).2)
  have hfresh := new_not_superseded hi hl hs
  have hdel := h.deleted_of_stores hs
  -- what a new row stands on is there, so it has not been deleted
  have hgone {x : TableName × Int} (hx : x.2 ∈ t'.ids x.1) : x ∉ d := fun hd ↦ (hdel x hd).2 hx
  refine ⟨?_, ?_, ?_, hdel, ?_, ?_⟩
  · rw [List.map_append]
    refine List.concat_eq_append ▸ h.refreshIds.concat fun hmem ↦ ?_
    obtain ⟨p, hp, hid⟩ := List.mem_map.mp hmem
    exact hrefresh p hp hid
  · rw [List.map_append]
    refine List.concat_eq_append ▸ h.accessIds.concat fun hmem ↦ ?_
    obtain ⟨p, hp, hid⟩ := List.mem_map.mp hmem
    exact haccess p hp hid
  · intro p hp
    rcases List.mem_append.mp hp with hp | hp
    · exact Int.le_trans (h.owners p hp) ((Tables.Counts.moves (.store hs)).last _)
    · obtain rfl := List.mem_singleton.mp hp
      rw [hs.tables_eq]
      exact Int.le_trans ((hi.without _).id_le_last (Tables.hasOwner_iff.mp hs.accepts.owner))
        ((Tables.Counts.withPair _ pair).last _)
  · intro p hp
    rcases List.mem_append.mp hp with hp | hp
    · have hne : Tables.refreshRow p.1 p.2.refreshTokenId ≠
          Tables.refreshRow pair issued.refreshTokenId :=
        fun heq ↦ hrefresh p hp (congrArg RefreshRow.id heq)
      rw [hs.mem_refreshTokens, or_iff_left hne, h.refreshRow p hp, mem_superseded_concat, not_or]
      exact and_right_comm
    · obtain rfl := List.mem_singleton.mp hp
      have hrow := hs.mem_refreshTokens.mpr (.inr rfl)
      exact iff_of_true hrow ⟨hfresh, fun x hx ↦ hgone (Tables.refresh_anchors hrow x hx)⟩
  · intro p hp
    rcases List.mem_append.mp hp with hp | hp
    · have hne : Tables.accessRow p.1 p.2.refreshTokenId p.2.accessTokenId ≠
          Tables.accessRow pair issued.refreshTokenId issued.accessTokenId :=
        fun heq ↦ haccess p hp (congrArg AccessRow.id heq)
      rw [hs.mem_accessTokens, or_iff_left hne, h.accessRow p hp, mem_superseded_concat, not_or]
      exact and_right_comm
    · obtain rfl := List.mem_singleton.mp hp
      have hrow := hs.mem_accessTokens.mpr (.inr rfl)
      exact iff_of_true hrow
        ⟨hfresh, fun x hx ↦ hgone ((hi.stores hs).access_anchors hrow x hx)⟩

end Stores

end Account

end TokenMint.Store
