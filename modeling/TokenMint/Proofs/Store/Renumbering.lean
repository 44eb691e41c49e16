import Mathlib.Logic.Equiv.Basic
import TokenMint.Proofs.Store.Integrity

/-! # Two pairs in either order

The tables hardly tell in which order two pairs have been stored.  What is taken out for one pair
can be taken out before or after the other is put in, and a look-up that is not for a pair finds the
same before and after it is stored.  Only the numbers of the new rows tell the order: exchanging
them turns the tables of one order into those of the other, `Tables.exchange_comm`. -/

namespace TokenMint.Store

/-- A look-up finds the same after rows that it is not for have gone and one has come. -/
theorem find?_filter_concat {α : Type} {p q : α → Bool} {l : List α} {a : α}
    (hkept : ∀ b ∈ l, p b → q b) (hnew : p a = false) :
    (l.filter q ++ [a]).find? p = l.find? p := by
  have hboth : l.filter (fun b ↦ p b && q b) = l.filter p := by
    refine List.filter_congr fun b hb ↦ ?_
    cases hp : p b with
    | false => rfl
    | true => exact hkept b hb hp
  rw [← List.head?_filter, ← List.head?_filter, List.filter_append, List.filter_filter, hboth,
    List.filter_singleton, hnew]
  simp

/-- Two parts at the end of a list change places, and each becomes what the other's place asks. -/
theorem perm_map_append_append {α : Type} {f : α → α} {l a a' b b' : List α} (hl : l.map f = l)
    (ha : a.map f = a') (hb : b.map f = b') : ((l ++ a ++ b).map f).Perm (l ++ b' ++ a') := by
  rw [List.map_append, List.map_append, hl, ha, hb, List.append_assoc, List.append_assoc]
  exact List.perm_append_comm.append_left l

namespace Tables

variable {t : Tables}

theorem without_refreshTokens (t : Tables) (supersedes : Option Int) :
    (t.without supersedes).refreshTokens = t.refreshTokens.keep (supersedes ≠ some ·.id) := by
  cases supersedes with
  | none => simp [without, Table.keep]
  | some id => simp [without, removeRefresh, removeAccess, Table.keep, eq_comm]

theorem without_accessTokens (t : Tables) (supersedes : Option Int) :
    (t.without supersedes).accessTokens =
      t.accessTokens.keep (supersedes ≠ some ·.refreshTokenId) := by
  cases supersedes with
  | none => simp [without, Table.keep]
  | some id => simp [without, removeRefresh, removeAccess, Table.keep, eq_comm]

theorem without_principals (t : Tables) (supersedes : Option Int) :
    (t.without supersedes).users = t.users ∧ (t.without supersedes).clients = t.clients ∧
      (t.without supersedes).scopes = t.scopes := by
  cases supersedes <;> exact ⟨rfl, rfl, rfl⟩

theorem nextPair_without (t : Tables) (supersedes : Option Int) :
    (t.without supersedes).nextPair = t.nextPair := by
  cases supersedes <;> rfl

/-- What accepts a pair still does when rows of tokens have gone. -/
theorem Accepts.without {pair : NewPair} (h : t.Accepts pair) (supersedes : Option Int) :
    (t.without supersedes).Accepts pair where
  refreshToken r hr := by
    rw [without_refreshTokens] at hr
    exact h.refreshToken r (List.mem_of_mem_filter hr)
  accessToken a ha := by
    rw [without_accessTokens] at ha
    exact h.accessToken a (List.mem_of_mem_filter ha)
  owner := by
    obtain ⟨hu, hc, -⟩ := t.without_principals supersedes
    exact h.owner.mono (fun c hmem ↦ hc ▸ hmem) fun u hmem ↦ hu ▸ hmem

/-! ## Look-ups -/

/-- A refresh token is found as before if it neither goes for the pair nor comes with it. -/
theorem find?_refresh_withPair {supersedes : Option Int} {pair : NewPair} {token : String}
    (hold : ∀ r ∈ t.refreshTokens.rows, r.token = token → supersedes ≠ some r.id)
    (hnew : pair.refreshToken ≠ token) :
    ((t.without supersedes).withPair pair).refreshTokens.rows.find? (·.token = token) =
      t.refreshTokens.rows.find? (·.token = token) := by
  simp only [withPair, Table.rows_add, without_refreshTokens, Table.rows_keep]
  exact find?_filter_concat (by simpa using hold) (by simpa [refreshRow] using hnew)

/-- The access token of a refresh token that was there is found as before if it does not go. -/
theorem find?_access_withPair (h : t.Integrity) {supersedes : Option Int}
    {pair : NewPair} {r : RefreshRow} (hr : r ∈ t.refreshTokens.rows)
    (hold : supersedes ≠ some r.id) :
    ((t.without supersedes).withPair pair).accessTokens.rows.find? (·.refreshTokenId = r.id) =
      t.accessTokens.rows.find? (·.refreshTokenId = r.id) := by
  have hnext : (t.without supersedes).refreshTokens.next ≠ r.id := by
    rw [without_refreshTokens]
    exact (h.refreshTokens.ne_next hr).symm
  simp only [withPair, Table.rows_add, without_accessTokens, Table.rows_keep]
  refine find?_filter_concat ?_ (by simpa [accessRow] using hnext)
  intro a _ ha
  have ha : a.refreshTokenId = r.id := by simpa using ha
  simpa [ha] using hold

/-! ## Taking out and putting in -/

theorem removeRefresh_comm (t : Tables) {a b : Int} (h : a ≠ b) :
    (t.removeRefresh a).removeRefresh b = (t.removeRefresh b).removeRefresh a := by
  -- no access token goes with both, so that each takes its own links
  have hother {x y : Int} (hxy : x ≠ y) (l : Link) (r : AccessRow) :
      (!decide (r.refreshTokenId = x) &&
        (decide (r.refreshTokenId = y) && decide (r.id = l.accessTokenId))) =
      (decide (r.refreshTokenId = y) && decide (r.id = l.accessTokenId)) := by
    by_cases hy : r.refreshTokenId = y
    · simp [hy, hxy.symm]
    · simp [hy]
  simp only [removeRefresh, removeAccess, Table.keep, List.filter_filter, List.any_filter,
    List.any_congr rfl (hother h _), List.any_congr rfl (hother h.symm _), Tables.mk.injEq,
    Table.mk.injEq, true_and, and_true]
  refine ⟨?_, ?_, ?_⟩
  all_goals exact List.filter_congr fun _ _ ↦ Bool.and_comm _ _

/-- Two refresh tokens can be taken out in either order. -/
theorem without_comm (t : Tables) (a b : Option Int) :
    (t.without a).without b = (t.without b).without a := by
  rcases a with _ | a
  · rfl
  rcases b with _ | b
  · rfl
  by_cases h : a = b
  · rw [h]
  · exact t.removeRefresh_comm h

/-- What is there before a pair is put in can be taken out after that. -/
theorem without_withPair (h : t.Integrity) {supersedes : Option Int} (pair : NewPair)
    (hne : supersedes ≠ some t.refreshTokens.next) :
    (t.withPair pair).without supersedes = (t.without supersedes).withPair pair := by
  rcases supersedes with _ | id
  · rfl
  have hid : t.refreshTokens.next ≠ id := fun heq ↦ hne (congrArg some heq.symm)
  have hrefresh : decide ((refreshRow pair t.refreshTokens.next).id = id) = false :=
    decide_eq_false hid
  have haccess :
      decide ((accessRow pair t.refreshTokens.next t.accessTokens.next).refreshTokenId = id) =
        false :=
    decide_eq_false hid
  -- the new links are of an access token that does not go
  have hlinks : (t.defaultScopes.map fun s ↦ (⟨t.accessTokens.next, s.id⟩ : Link)).filter
      (fun l ↦ !t.accessTokens.rows.any fun r ↦
        decide (r.refreshTokenId = id) && decide (r.id = l.accessTokenId)) =
      t.defaultScopes.map fun s ↦ ⟨t.accessTokens.next, s.id⟩ := by
    rw [List.filter_eq_self]
    intro l hl
    obtain ⟨s, -, rfl⟩ := List.mem_map.mp hl
    have hnew : ∀ r ∈ t.accessTokens.rows, r.id ≠ t.accessTokens.next :=
      fun r hr ↦ h.accessTokens.ne_next hr
    simpa using fun r hr _ ↦ hnew r hr
  have hany (l : Link) : ((t.accessTokens.rows ++
      [accessRow pair t.refreshTokens.next t.accessTokens.next]).any fun r ↦
        decide (r.refreshTokenId = id) && decide (r.id = l.accessTokenId)) =
      t.accessTokens.rows.any fun r ↦
        decide (r.refreshTokenId = id) && decide (r.id = l.accessTokenId) := by
    simp [haccess]
  simp only [without, removeRefresh, removeAccess, withPair, Table.keep, Table.add, hany,
    Tables.mk.injEq, Table.mk.injEq, List.filter_append, List.filter_singleton, ne_eq,
    decide_not, hrefresh, haccess, true_and]
  refine ⟨⟨rfl, rfl⟩, ⟨rfl, rfl⟩, ?_⟩
  exact congrArg (_ ++ ·) hlinks

/-! ## Numbers -/

/-- The tables with other numbers for refresh tokens and access tokens. -/
def renumber (ρ α : Equiv.Perm Int) (t : Tables) : Tables :=
  { t with
    refreshTokens.rows := t.refreshTokens.rows.map fun r ↦ { r with id := ρ r.id }
    accessTokens.rows := t.accessTokens.rows.map fun a ↦
      { a with id := α a.id, refreshTokenId := ρ a.refreshTokenId }
    links := t.links.map fun l ↦ { l with accessTokenId := α l.accessTokenId } }

/-- The same rows and the same counts, whatever the order of the rows of tokens and of the links. -/
structure Same (t t' : Tables) : Prop where
  users : t.users = t'.users
  clients : t.clients = t'.clients
  scopes : t.scopes = t'.scopes
  refreshTokens : t.refreshTokens.rows.Perm t'.refreshTokens.rows
  accessTokens : t.accessTokens.rows.Perm t'.accessTokens.rows
  links : t.links.Perm t'.links
  last : t.refreshTokens.last = t'.refreshTokens.last ∧ t.accessTokens.last = t'.accessTokens.last

theorem Same.refl (t : Tables) : t.Same t :=
  ⟨rfl, rfl, rfl, .refl _, .refl _, .refl _, rfl, rfl⟩

/-- Numbers that no row has do not matter. -/
theorem renumber_eq_self (h : t.Integrity) {ρ α : Equiv.Perm Int}
    (hρ : ∀ n ≤ t.refreshTokens.last, ρ n = n) (hα : ∀ n ≤ t.accessTokens.last, α n = n) :
    t.renumber ρ α = t := by
  have hrefresh : t.refreshTokens.rows.map (fun r ↦ { r with id := ρ r.id }) =
      t.refreshTokens.rows := by
    refine (List.map_congr_left fun r hr ↦ ?_).trans (List.map_id _)
    rw [hρ r.id (h.refreshTokens.counted r hr).2]
    rfl
  have haccess : t.accessTokens.rows.map
      (fun a ↦ { a with id := α a.id, refreshTokenId := ρ a.refreshTokenId }) =
      t.accessTokens.rows := by
    refine (List.map_congr_left fun a ha ↦ ?_).trans (List.map_id _)
    obtain ⟨r, hr, hid⟩ := h.refresh a ha
    rw [hα a.id (h.accessTokens.counted a ha).2, ← hid, hρ r.id (h.refreshTokens.counted r hr).2,
      hid]
    rfl
  have hlinks : t.links.map (fun l ↦ { l with accessTokenId := α l.accessTokenId }) = t.links := by
    refine (List.map_congr_left fun l hl ↦ ?_).trans (List.map_id _)
    obtain ⟨⟨a, ha, hid⟩, -⟩ := h.linked l hl
    rw [← hid, hα a.id (h.accessTokens.counted a ha).2, hid]
    rfl
  rw [renumber, hrefresh, haccess, hlinks]

/-- Two pairs that are stored in either order exchange their numbers. -/
theorem withPair_comm (h : t.Integrity) (p q : NewPair) :
    (((t.withPair p).withPair q).renumber
      (.swap t.refreshTokens.next (t.refreshTokens.next + 1))
      (.swap t.accessTokens.next (t.accessTokens.next + 1))).Same
        ((t.withPair q).withPair p) := by
  let ρ := Equiv.swap t.refreshTokens.next (t.refreshTokens.next + 1)
  let α := Equiv.swap t.accessTokens.next (t.accessTokens.next + 1)
  have hold : t.renumber ρ α = t := by
    refine renumber_eq_self h (fun n hn ↦ ?_) fun n hn ↦ ?_
    all_goals
      refine Equiv.swap_apply_of_ne_of_ne ?_ ?_
      all_goals
        unfold Table.next
        omega
  have hρ : ρ t.refreshTokens.next = t.refreshTokens.next + 1 := Equiv.swap_apply_left _ _
  have hρ' : ρ (t.refreshTokens.next + 1) = t.refreshTokens.next := Equiv.swap_apply_right _ _
  have hα : α t.accessTokens.next = t.accessTokens.next + 1 := Equiv.swap_apply_left _ _
  have hα' : α (t.accessTokens.next + 1) = t.accessTokens.next := Equiv.swap_apply_right _ _
  have hlinks (m m' : Int) (hm : α m = m') :
      (t.defaultScopes.map fun s ↦ (⟨m, s.id⟩ : Link)).map
          (fun l ↦ { l with accessTokenId := α l.accessTokenId }) =
        t.defaultScopes.map fun s ↦ ⟨m', s.id⟩ := by
    rw [List.map_map]
    exact List.map_congr_left fun s _ ↦ congrArg (Link.mk · s.id) hm
  refine ⟨rfl, rfl, rfl, ?_, ?_, ?_, rfl, rfl⟩
  · exact perm_map_append_append (congrArg (·.refreshTokens.rows) hold)
      (congrArg (fun n ↦ [refreshRow p n]) hρ) (congrArg (fun n ↦ [refreshRow q n]) hρ')
  · exact perm_map_append_append (congrArg (·.accessTokens.rows) hold)
      (congrArg₂ (fun n m ↦ [accessRow p n m]) hρ hα)
      (congrArg₂ (fun n m ↦ [accessRow q n m]) hρ' hα')
  · exact perm_map_append_append (congrArg (·.links) hold) (hlinks _ _ hα) (hlinks _ _ hα')

/-- Two exchanges of tokens that are there before either, in both orders. -/
theorem exchange_comm (h : t.Integrity) {a b : Option Int}
    (ha : a ≠ some t.refreshTokens.next) (hb : b ≠ some t.refreshTokens.next) (p q : NewPair) :
    (((((t.without a).withPair p).without b).withPair q).renumber
      (.swap t.refreshTokens.next (t.refreshTokens.next + 1))
      (.swap t.accessTokens.next (t.accessTokens.next + 1))).Same
        ((((t.without b).withPair q).without a).withPair p) := by
  have hnext (x : Option Int) : (t.without x).refreshTokens.next = t.refreshTokens.next ∧
      (t.without x).accessTokens.next = t.accessTokens.next := by
    cases x <;> exact ⟨rfl, rfl⟩
  have hcomm := withPair_comm ((h.without a).without b) p q
  have hnext' : ((t.without a).without b).refreshTokens.next = t.refreshTokens.next ∧
      ((t.without a).without b).accessTokens.next = t.accessTokens.next := by
    cases b <;> exact hnext a
  rw [hnext'.1, hnext'.2] at hcomm
  rw [without_withPair (h.without a) p (by rwa [(hnext a).1]),
    without_withPair (h.without b) q (by rwa [(hnext b).1]), t.without_comm b a]
  exact hcomm

/-- What the next pair gets when one has been exchanged. -/
theorem nextPair_exchange (t : Tables) (supersedes : Option Int) (pair : NewPair) :
    ((t.without supersedes).withPair pair).nextPair =
      { accessTokenId := t.accessTokens.next + 1
        refreshTokenId := t.refreshTokens.next + 1
        scopes := t.defaultScopes } := by
  cases supersedes <;> rfl

end Tables

end TokenMint.Store
