import TokenMint.Proofs.Store.Account

/-! # Live pairs

Of the pairs that have been stored, those are live that no other has replaced.  While nothing is
deleted, the rows for tokens are those of the live pairs, in the order in which they were stored:
storing a pair in place of another takes one out and puts one in. -/

namespace TokenMint.Store

/-- The stored pairs that no other has replaced. -/
def live (l : List (NewPair × IssuedPair)) : List (NewPair × IssuedPair) :=
  l.filter (·.2.refreshTokenId ∉ superseded l)

theorem mem_live {l : List (NewPair × IssuedPair)} {p : NewPair × IssuedPair} :
    p ∈ live l ↔ p ∈ l ∧ ∀ q ∈ l, q.1.supersedes ≠ some p.2.refreshTokenId := by
  rw [live, List.mem_filter, decide_eq_true_iff, mem_superseded]
  simp only [not_exists, not_and, ne_eq]

/-- A new pair is live, and ends the life of the one it replaces. -/
theorem live_concat {l : List (NewPair × IssuedPair)} {pair : NewPair} {issued : IssuedPair}
    (hnew : issued.refreshTokenId ∉ superseded (l ++ [(pair, issued)])) :
    live (l ++ [(pair, issued)]) =
      (live l).filter (some ·.2.refreshTokenId ≠ pair.supersedes) ++ [(pair, issued)] := by
  unfold live
  rw [List.filter_append, List.filter_filter]
  congr 1
  · refine List.filter_congr fun p _ ↦ ?_
    rw [← Bool.decide_and, decide_eq_decide, mem_superseded_concat, not_or]
    exact and_comm.trans (and_congr_left' ne_comm)
  · exact List.filter_eq_self.mpr (by simpa using hnew)

/-- Of things that differ in a key, all but one have another than that one. -/
theorem length_filter_key_ne {α κ : Type} [DecidableEq κ] {key : α → κ} {l : List α}
    (h : (l.map key).Nodup) {k : κ} (hk : k ∈ l.map key) :
    (l.filter (key · ≠ k)).length + 1 = l.length := by
  have hone : l.countP (key · = k) = 1 := by
    rw [← List.count_eq_one_of_mem h hk, List.count_eq_countP, List.countP_map]
    rfl
  rw [← List.countP_eq_length_filter, List.length_eq_countP_add_countP (key · = k), hone,
    Nat.add_comm]
  simp

/-- The rows for tokens are those of the live pairs. -/
structure Holds (t : Tables) (l : List (NewPair × IssuedPair)) : Prop where
  refreshRows : t.refreshTokens.rows =
    (live l).map fun p ↦ Tables.refreshRow p.1 p.2.refreshTokenId
  accessRows : t.accessTokens.rows =
    (live l).map fun p ↦ Tables.accessRow p.1 p.2.refreshTokenId p.2.accessTokenId

namespace Holds

variable {t t' : Tables} {l : List (NewPair × IssuedPair)} {pair : NewPair} {issued : IssuedPair}

theorem stores (h : Holds t l) (hi : t.Integrity) (hl : Ledger t l)
    (hs : t.Stores pair issued t') : Holds t' (l ++ [(pair, issued)]) where
  refreshRows := by
    rw [hs.refreshRows, h.refreshRows, live_concat (Account.new_not_superseded hi hl hs),
      List.filter_map, List.map_append]
    rfl
  accessRows := by
    rw [hs.accessRows, h.accessRows, live_concat (Account.new_not_superseded hi hl hs),
      List.filter_map, List.map_append]
    rfl

/-- There is one live pair more if the new one replaces none, and as many as before if it does. -/
theorem length_live (h : Holds t l) (hi : t.Integrity) (hl : Ledger t l)
    (hs : t.Stores pair issued t') :
    (live (l ++ [(pair, issued)])).length =
      (live l).length + if pair.supersedes = none then 1 else 0 := by
  rw [live_concat (Account.new_not_superseded hi hl hs), List.length_append]
  cases hsup : pair.supersedes with
  | none => simp
  | some id =>
    have hids : t.refreshTokens.rows.map (·.id) = (live l).map (·.2.refreshTokenId) := by
      rw [h.refreshRows, List.map_map]
      rfl
    have hmem : id ∈ (live l).map (·.2.refreshTokenId) := by
      obtain ⟨r, hr, hid⟩ := hs.superseded id hsup
      rw [← hids]
      exact List.mem_map.mpr ⟨r, hr, hid⟩
    simpa using length_filter_key_ne (hids ▸ hi.refreshTokens.ids) hmem

/-- Refresh tokens and access tokens go together, one with one. -/
theorem one_to_one (h : Holds t l) (hi : t.Integrity) :
    (∀ r ∈ t.refreshTokens.rows, ∃! a, a ∈ t.accessTokens.rows ∧ a.refreshTokenId = r.id) ∧
      ∀ a ∈ t.accessTokens.rows, ∃! r, r ∈ t.refreshTokens.rows ∧ r.id = a.refreshTokenId := by
  constructor
  · intro r hr
    rw [h.refreshRows] at hr
    obtain ⟨p, hp, rfl⟩ := List.mem_map.mp hr
    have ha : Tables.accessRow p.1 p.2.refreshTokenId p.2.accessTokenId ∈
        t.accessTokens.rows := by
      rw [h.accessRows]
      exact List.mem_map.mpr ⟨p, hp, rfl⟩
    exact ⟨_, ⟨ha, rfl⟩, fun b hb ↦ List.inj_on_of_nodup_map hi.single hb.1 ha hb.2⟩
  · intro a ha
    obtain ⟨r, hr, hid⟩ := hi.refresh a ha
    refine ⟨r, ⟨hr, hid⟩, fun x hx ↦ ?_⟩
    exact List.inj_on_of_nodup_map hi.refreshTokens.ids hx.1 hr (hx.2.trans hid.symm)

end Holds

end TokenMint.Store
