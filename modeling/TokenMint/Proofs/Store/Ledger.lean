import Mathlib.Data.List.Pairwise
import TokenMint.Proofs.Store.Integrity

/-! # The ledger of stored pairs

Rows for tokens come from nowhere but stored pairs.  A list of all pairs stored so far, however many
of them are gone by now, accounts for every row; and since numbers are never given out twice, it
shows no refresh token replaced twice. -/

namespace TokenMint.Store

/-- If nothing comes twice out of a list, each thing comes from one place. -/
theorem eq_of_nodup_filterMap {α β : Type} {f : α → Option β} {l : List α}
    (h : (l.filterMap f).Nodup) {x y : α} (hx : x ∈ l) (hy : y ∈ l) {b : β} (hbx : f x = some b)
    (hby : f y = some b) : x = y := by
  by_contra hne
  have hsymm : Std.Symm fun x y ↦ ∀ b, f x = some b → ∀ b', f y = some b' → b ≠ b' :=
    ⟨fun _ _ h b hb b' hb' ↦ (h b' hb' b hb).symm⟩
  exact (List.pairwise_filterMap.mp h).forall hx hy hne b hbx b hby rfl

namespace Tables

/-- No row for a token is new. -/
structure TokensWithin (t' t : Tables) : Prop where
  refreshRows : ∀ r ∈ t'.refreshTokens.rows, r ∈ t.refreshTokens.rows
  accessRows : ∀ a ∈ t'.accessTokens.rows, a ∈ t.accessTokens.rows
  refreshLast : t'.refreshTokens.last = t.refreshTokens.last
  accessLast : t'.accessTokens.last = t.accessTokens.last

namespace TokensWithin

theorem refl (t : Tables) : TokensWithin t t := ⟨fun _ h ↦ h, fun _ h ↦ h, rfl, rfl⟩

theorem remove (t : Tables) (n : TableName) (id : Int) : TokensWithin (t.remove n id) t where
  refreshRows r hr := by
    cases n with
    | refreshTokens => exact List.mem_of_mem_filter hr
    | _ => exact hr
  accessRows a ha := by
    cases n with
    | scopes | links => exact ha
    | _ => exact List.mem_of_mem_filter ha
  refreshLast := by cases n <;> rfl
  accessLast := by cases n <;> rfl

theorem without (t : Tables) (supersedes : Option Int) : TokensWithin (t.without supersedes) t := by
  cases supersedes with
  | none => exact refl t
  | some id => exact remove t .refreshTokens id

/-- Unless a pair is stored, no row for a token is new. -/
theorem moves {t t' : Tables} (h : t.Moves none t') : TokensWithin t' t := by
  generalize hs : none = stored at h
  cases h with
  | stay => exact refl _
  | remove n id => exact remove _ n id
  | store => cases hs
  | addUser h =>
    obtain ⟨-, -, rfl⟩ := addUser_eq_ok h
    exact ⟨fun _ h ↦ h, fun _ h ↦ h, rfl, rfl⟩
  | addClient h =>
    obtain ⟨-, -, rfl⟩ := addClient_eq_ok h
    exact ⟨fun _ h ↦ h, fun _ h ↦ h, rfl, rfl⟩
  | addScope h =>
    obtain ⟨-, -, rfl⟩ := addScope_eq_ok h
    exact ⟨fun _ h ↦ h, fun _ h ↦ h, rfl, rfl⟩

end TokensWithin

end Tables

/-- All pairs stored so far account for the rows that are left. -/
structure Ledger (t : Tables) (l : List (NewPair × IssuedPair)) : Prop where
  refreshRows : ∀ r ∈ t.refreshTokens.rows, ∃ p ∈ l, r = Tables.refreshRow p.1 p.2.refreshTokenId
  accessRows : ∀ a ∈ t.accessTokens.rows, ∃ p ∈ l,
    a = Tables.accessRow p.1 p.2.refreshTokenId p.2.accessTokenId
  counted : ∀ p ∈ l, p.2.refreshTokenId ≤ t.refreshTokens.last ∧
    p.2.accessTokenId ≤ t.accessTokens.last
  /-- What has been replaced is gone, and will not come back. -/
  gone : ∀ p ∈ l, ∀ id, p.1.supersedes = some id →
    id ≤ t.refreshTokens.last ∧ ∀ r ∈ t.refreshTokens.rows, r.id ≠ id
  /-- Nothing has been replaced twice. -/
  once : (l.filterMap (·.1.supersedes)).Nodup

namespace Ledger

variable {t t' : Tables} {l : List (NewPair × IssuedPair)}

/-- Before any pair has been stored, there are no tokens. -/
theorem empty (hr : t.refreshTokens.rows = []) (ha : t.accessTokens.rows = []) : Ledger t [] where
  refreshRows _ h := absurd (hr ▸ h) List.not_mem_nil
  accessRows _ h := absurd (ha ▸ h) List.not_mem_nil
  counted _ h := absurd h List.not_mem_nil
  gone _ h := absurd h List.not_mem_nil
  once := List.nodup_nil

theorem within (h : Ledger t l) (hw : t'.TokensWithin t) : Ledger t' l where
  refreshRows r hr := h.refreshRows r (hw.refreshRows r hr)
  accessRows a ha := h.accessRows a (hw.accessRows a ha)
  counted p hp := by
    rw [hw.refreshLast, hw.accessLast]
    exact h.counted p hp
  gone p hp id hid := by
    obtain ⟨hle, hno⟩ := h.gone p hp id hid
    rw [hw.refreshLast]
    exact ⟨hle, fun r hr ↦ hno r (hw.refreshRows r hr)⟩
  once := h.once

/-- A row with a number keeps that number from having been replaced. -/
theorem not_superseded (h : Ledger t l) {r : RefreshRow} (hr : r ∈ t.refreshTokens.rows) :
    r.id ∉ l.filterMap (·.1.supersedes) := by
  intro hmem
  obtain ⟨p, hp, hid⟩ := List.mem_filterMap.mp hmem
  exact (h.gone p hp r.id hid).2 r hr rfl

theorem row_le_last (h : Ledger t l) {r : RefreshRow} (hr : r ∈ t.refreshTokens.rows) :
    r.id ≤ t.refreshTokens.last := by
  obtain ⟨p, hp, rfl⟩ := h.refreshRows r hr
  exact (h.counted p hp).1

theorem stores (h : Ledger t l) {pair : NewPair} {issued : IssuedPair}
    (hs : t.Stores pair issued t') : Ledger t' (l ++ [(pair, issued)]) := by
  have hw := Tables.TokensWithin.without t pair.supersedes
  have hin := h.within hw
  obtain ⟨hsup, -, rfl, rfl⟩ := hs
  generalize hu : t.without pair.supersedes = u at hw hin
  refine ⟨?_, ?_, ?_, ?_, ?_⟩
  · intro r hr
    rcases List.mem_append.mp hr with hr | hr
    · obtain ⟨p, hp, heq⟩ := hin.refreshRows r hr
      exact ⟨p, List.mem_append_left _ hp, heq⟩
    · exact ⟨_, List.mem_append_right _ (List.mem_singleton_self _), List.mem_singleton.mp hr⟩
  · intro a ha
    rcases List.mem_append.mp ha with ha | ha
    · obtain ⟨p, hp, heq⟩ := hin.accessRows a ha
      exact ⟨p, List.mem_append_left _ hp, heq⟩
    · exact ⟨_, List.mem_append_right _ (List.mem_singleton_self _), List.mem_singleton.mp ha⟩
  · intro p hp
    change _ ≤ u.refreshTokens.last + 1 ∧ _ ≤ u.accessTokens.last + 1
    rcases List.mem_append.mp hp with hp | hp
    · have := hin.counted p hp
      omega
    · obtain rfl := List.mem_singleton.mp hp
      exact ⟨Int.le_refl _, Int.le_refl _⟩
  · intro p hp id hid
    -- the number was counted before, and its row, if there was one, has been taken out
    have hold : id ≤ u.refreshTokens.last ∧ ∀ r ∈ u.refreshTokens.rows, r.id ≠ id := by
      rcases List.mem_append.mp hp with hp | hp
      · exact hin.gone p hp id hid
      · obtain rfl := List.mem_singleton.mp hp
        obtain ⟨r, hr, rfl⟩ := hsup id hid
        refine ⟨hw.refreshLast ▸ h.row_le_last hr, fun x hx ↦ ?_⟩
        rw [← hu, hid] at hx
        simpa using (List.mem_filter.mp hx).2
    refine ⟨Int.le_trans hold.1 (Int.le_add_of_nonneg_right (by decide)), ?_⟩
    intro r hr
    rcases List.mem_append.mp hr with hr | hr
    · exact hold.2 r hr
    · obtain rfl := List.mem_singleton.mp hr
      have := hold.1
      change u.refreshTokens.last + 1 ≠ id
      omega
  · rw [List.filterMap_append]
    cases hid : pair.supersedes with
    | none => simpa [hid] using h.once
    | some id =>
      obtain ⟨r, hr, rfl⟩ := hsup id hid
      have hlast : [(pair, u.nextPair)].filterMap (·.1.supersedes) = [r.id] := by simp [hid]
      rw [hlast, List.nodup_append]
      refine ⟨h.once, List.nodup_singleton _, ?_⟩
      intro a ha b hb heq
      obtain rfl := List.mem_singleton.mp hb
      exact h.not_superseded hr (heq ▸ ha)

/-- The ledger goes on with every move. -/
theorem moves (h : Ledger t l) {stored : Option (NewPair × IssuedPair)} (hm : t.Moves stored t') :
    Ledger t' (l ++ stored.toList) := by
  cases stored with
  | none =>
    rw [Option.toList_none, List.append_nil]
    exact h.within (.moves hm)
  | some p =>
    cases hm with
    | store hs => exact h.stores hs

/-- No two stored pairs have replaced the same refresh token. -/
theorem eq_of_supersedes (h : Ledger t l) {p q : NewPair × IssuedPair} (hp : p ∈ l) (hq : q ∈ l)
    {id : Int} (hpid : p.1.supersedes = some id) (hqid : q.1.supersedes = some id) : p = q :=
  eq_of_nodup_filterMap h.once hp hq hpid hqid

end Ledger

end TokenMint.Store
