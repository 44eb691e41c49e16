import TokenMint.Proofs.Store.Scopes

/-! # The scopes that an access token keeps

Which scopes an access token has is settled when it is stored: it is linked to the default scopes of
that moment.  From then on its links only go, each with its scope.  A scope that is added later has
a number of its own, whatever its name is, so no link of an older access token leads to it; and an
access token that is stored later has a number of its own, so no link of an older one is left for
it. -/

namespace TokenMint.Store

namespace Tables

variable {t t' : Tables}

/-- The names that are read for an access token are those of the scopes to which it is linked. -/
theorem mem_scopesOf {id : Int} {name : String} :
    name ∈ t.scopesOf id ↔ ∃ s ∈ t.scopes.rows, (⟨id, s.id⟩ : Link) ∈ t.links ∧ s.name = name := by
  have hlink (s : Scope) : (t.links.any fun l ↦ l.accessTokenId = id && l.scopeId = s.id) = true ↔
      (⟨id, s.id⟩ : Link) ∈ t.links := by
    rw [List.any_eq_true]
    constructor
    · rintro ⟨⟨a, b⟩, hl, heq⟩
      simp only [Bool.and_eq_true, decide_eq_true_iff] at heq
      obtain ⟨rfl, rfl⟩ := heq
      exact hl
    · intro hl
      exact ⟨_, hl, by simp⟩
  rw [scopesOf, (List.mergeSort_perm _ _).mem_iff, List.mem_map]
  refine exists_congr fun s ↦ ?_
  rw [List.mem_filter, hlink, and_assoc]

theorem Integrity.ascending_scopesOf (h : t.Integrity) (id : Int) : Ascending (t.scopesOf id) :=
  .mergeSort (h.scopes.keys.sublist (List.filter_sublist.map _))

/-! ## What deletions do to scopes and links -/

theorem mem_remove_scopes {n : TableName} {id : Int} {s : Scope} :
    s ∈ (t.remove n id).scopes.rows ↔ s ∈ t.scopes.rows ∧ (n, id) ≠ (.scopes, s.id) := by
  cases n <;> simp [remove, removeUser, removeClient, removeScope, removeRefresh, removeAccess,
    @eq_comm _ id]

/-- An access token that does not go with others keeps its links. -/
theorem Integrity.mem_links_removeAccess (h : t.Integrity) {gone : AccessRow → Bool}
    {a : AccessRow} (ha : a ∈ (t.removeAccess gone).accessTokens.rows) {scopeId : Int} :
    (⟨a.id, scopeId⟩ : Link) ∈ (t.removeAccess gone).links ↔ ⟨a.id, scopeId⟩ ∈ t.links := by
  rw [Tables.removeAccess, List.mem_filter, Bool.not_eq_true', List.any_eq_false]
  refine and_iff_left fun b hb hgone ↦ ?_
  rw [Bool.and_eq_true, decide_eq_true_iff] at hgone
  obtain ⟨hgone, hid⟩ := hgone
  obtain rfl := List.inj_on_of_nodup_map h.accessTokens.ids hb (List.mem_of_mem_filter ha) hid
  rw [Integrity.not_gone ha] at hgone
  cases hgone

/-- An access token that stays keeps its links, but for those to a scope that goes. -/
theorem Integrity.mem_links_remove (h : t.Integrity) {n : TableName} {id scopeId : Int}
    {a : AccessRow} (ha : a ∈ (t.remove n id).accessTokens.rows) :
    (⟨a.id, scopeId⟩ : Link) ∈ (t.remove n id).links ↔
      ⟨a.id, scopeId⟩ ∈ t.links ∧ (n, id) ≠ (.scopes, scopeId) := by
  cases n with
  | scopes => simp [Tables.remove, Tables.removeScope, @eq_comm _ id]
  | links => simp [Tables.remove]
  | _ =>
    rw [and_iff_left (by simp)]
    exact h.mem_links_removeAccess ha

/-! ## What storing a pair does to links -/

section Stores

variable {pair : NewPair} {issued : IssuedPair}

/-- An access token that is not replaced keeps its links, and gets no others. -/
theorem Stores.mem_links (h : t.Stores pair issued t') (hi : t.Integrity) {a : AccessRow}
    (ha : a ∈ t.accessTokens.rows) (hkept : pair.supersedes ≠ some a.refreshTokenId)
    {scopeId : Int} : (⟨a.id, scopeId⟩ : Link) ∈ t'.links ↔ ⟨a.id, scopeId⟩ ∈ t.links := by
  have hnew : issued.accessTokenId ≠ a.id := fun heq ↦
    (h.ids_new hi).2 (heq ▸ List.mem_map_of_mem ha)
  rw [h.links_eq, List.mem_append, List.mem_filter, decide_eq_true_iff]
  constructor
  · rintro (⟨hl, -⟩ | hl)
    · exact hl
    · obtain ⟨s, -, heq⟩ := List.mem_map.mp hl
      exact absurd (congrArg Link.accessTokenId heq) hnew
  · refine fun hl ↦ .inl ⟨hl, fun b hb hsup hid ↦ hkept ?_⟩
    obtain rfl := List.inj_on_of_nodup_map hi.accessTokens.ids hb ha hid
    exact hsup.symm

/-- A new access token is linked to the scopes that it has been issued with. -/
theorem Stores.mem_links_new (h : t.Stores pair issued t') (hi : t.Integrity) {s : Scope}
    (hs : s ∈ t.scopes.rows) :
    (⟨issued.accessTokenId, s.id⟩ : Link) ∈ t'.links ↔ s ∈ issued.scopes := by
  have hof : (⟨issued.accessTokenId, s.id⟩ : Link) ∈ t'.links ↔
      ⟨issued.accessTokenId, s.id⟩ ∈ t'.linksOf issued.accessTokenId := by
    simp [linksOf]
  rw [hof, h.linksOf_eq hi, h.scopes_eq, List.mem_map]
  constructor
  · rintro ⟨d, hd, heq⟩
    have hid : d.id = s.id := congrArg Link.scopeId heq
    obtain rfl := List.inj_on_of_nodup_map hi.scopes.ids (mem_defaultScopes.mp hd).1 hs hid
    exact hd
  · exact fun hs ↦ ⟨s, hs, rfl⟩

end Stores

end Tables

/-! ## The grants -/

/-- The pairs stored and the rows deleted so far settle which scopes each access token has. -/
structure Grants (t : Tables) (l : List (NewPair × IssuedPair)) (d : List (TableName × Int)) :
    Prop where
  ordered : ∀ p ∈ l, Tables.Ascending (p.2.scopes.map (·.name))
  /-- All scopes that have been granted have been given their numbers. -/
  counted : ∀ p ∈ l, ∀ s ∈ p.2.scopes, s.id ≤ t.last .scopes
  /-- They have their rows until these are deleted. -/
  rows : ∀ p ∈ l, ∀ s ∈ p.2.scopes, s ∈ t.scopes.rows ↔ (.scopes, s.id) ∉ d
  /-- An access token is linked to those of the scopes that it has been granted. -/
  links : ∀ p ∈ l, p.2.accessTokenId ∈ t.ids .accessTokens → ∀ s ∈ t.scopes.rows,
    (⟨p.2.accessTokenId, s.id⟩ : Link) ∈ t.links ↔ s ∈ p.2.scopes

namespace Grants

variable {t t' : Tables} {l : List (NewPair × IssuedPair)} {d d' : List (TableName × Int)}

/-- To begin with nothing has been granted. -/
theorem empty (t : Tables) : Grants t [] [] where
  ordered _ h := absurd h List.not_mem_nil
  counted _ h := absurd h List.not_mem_nil
  rows _ h := absurd h List.not_mem_nil
  links _ h := absurd h List.not_mem_nil

/-- What is read for an access token is what it has been granted, without what has been deleted. -/
theorem scopesOf_eq (h : Grants t l d) (hi : t.Integrity) {p : NewPair × IssuedPair} (hp : p ∈ l)
    (hrow : p.2.accessTokenId ∈ t.ids .accessTokens) :
    t.scopesOf p.2.accessTokenId =
      (p.2.scopes.filter fun s ↦ (.scopes, s.id) ∉ d).map (·.name) := by
  refine (hi.ascending_scopesOf _).eq_of_mem_iff ?_ fun name ↦ ?_
  · exact List.Pairwise.sublist (List.filter_sublist.map _) (h.ordered p hp)
  · rw [Tables.mem_scopesOf, List.mem_map]
    refine exists_congr fun s ↦ ?_
    rw [List.mem_filter, decide_eq_true_iff, ← and_assoc, and_congr_left_iff]
    intro _
    constructor
    · rintro ⟨hs, hl⟩
      have hgranted := (h.links p hp hrow s hs).mp hl
      exact ⟨hgranted, (h.rows p hp s hgranted).mp hs⟩
    · rintro ⟨hgranted, hd⟩
      have hs := (h.rows p hp s hgranted).mpr hd
      exact ⟨hs, (h.links p hp hrow s hs).mpr hgranted⟩

/-! ### Every change keeps the grants -/

/-- What touches neither scopes nor access tokens leaves the grants as they are. -/
theorem congr (h : Grants t l d) (hs : t'.scopes = t.scopes) (ha : t'.accessTokens = t.accessTokens)
    (hl : t'.links = t.links) : Grants t' l d where
  ordered := h.ordered
  counted p hp s hmem := by
    change _ ≤ t'.scopes.last
    rw [hs]
    exact h.counted p hp s hmem
  rows := hs ▸ h.rows
  links p hp hrow := by
    change _ ∈ t'.accessTokens.rows.map _ at hrow
    rw [ha] at hrow
    rw [hs, hl]
    exact h.links p hp hrow

/-- A scope that is added belongs to no access token that is there. -/
theorem addScope (h : Grants t l d) (hi : t.Integrity) {name : String} {isDefault : Bool} {id : Int}
    (ht : t.addScope name isDefault = .ok (id, t')) : Grants t' l d := by
  obtain ⟨-, -, rfl⟩ := Tables.addScope_eq_ok ht
  have hnew : ∀ p ∈ l, ∀ s ∈ p.2.scopes, s ≠ ⟨t.scopes.next, name, isDefault⟩ := by
    rintro p hp s hs rfl
    exact absurd (h.counted p hp _ hs) (Int.not_le.mpr (Int.lt_succ _))
  refine ⟨h.ordered, fun p hp s hs ↦ ?_, fun p hp s hs ↦ ?_, fun p hp hrow s hs ↦ ?_⟩
  · exact Int.le_trans (h.counted p hp s hs) (Int.le_of_lt (Int.lt_succ _))
  · rw [← h.rows p hp s hs]
    exact List.mem_append.trans (or_iff_left fun hmem ↦ hnew p hp s hs (List.mem_singleton.mp hmem))
  · rcases List.mem_append.mp hs with hs | hs
    · exact h.links p hp hrow s hs
    · obtain rfl := List.mem_singleton.mp hs
      refine iff_of_false (fun hl ↦ ?_) fun hs ↦ hnew p hp _ hs rfl
      obtain ⟨-, r, hr, hid⟩ := hi.linked _ hl
      exact hi.scopes.ne_next hr hid

/-- A deletion takes from every access token that stays what has been deleted, and nothing else. -/
theorem remove (h : Grants t l d) (hi : t.Integrity) (n : TableName) (id : Int)
    (hd : ∀ x, x ∈ d' ↔ x ∈ d ∨ x = (n, id) ∧ id ∈ t.ids n) : Grants (t.remove n id) l d' := by
  refine ⟨h.ordered, fun p hp s hs ↦ ?_, fun p hp s hs ↦ ?_, fun p hp hrow s hs ↦ ?_⟩
  · exact Int.le_trans (h.counted p hp s hs) ((Tables.Counts.remove t n id).last _)
  · rw [Tables.mem_remove_scopes, h.rows p hp s hs, hd, not_or, and_congr_right_iff]
    intro hkept
    have hid : s.id ∈ t.ids .scopes := List.mem_map_of_mem ((h.rows p hp s hs).mpr hkept)
    constructor
    · rintro hne ⟨heq, -⟩
      exact hne heq.symm
    · rintro hne heq
      obtain ⟨rfl, rfl⟩ := Prod.mk.inj heq
      exact hne ⟨rfl, hid⟩
  · obtain ⟨a, ha, hid⟩ := List.mem_map.mp hrow
    obtain ⟨hs, hne⟩ := Tables.mem_remove_scopes.mp hs
    have hold : p.2.accessTokenId ∈ t.ids .accessTokens :=
      List.mem_map.mpr ⟨a, (Tables.mem_remove_accessTokens.mp ha).1, hid⟩
    rw [← h.links p hp hold s hs, ← hid, hi.mem_links_remove ha]
    exact and_iff_left hne

/-- A pair that is stored is granted the default scopes of that moment, and others lose none. -/
theorem stores (h : Grants t l d) (hi : t.Integrity) (ha : Account t l d) (hl : Ledger t l)
    {pair : NewPair} {issued : IssuedPair} (hs : t.Stores pair issued t') :
    Grants t' (l ++ [(pair, issued)]) d := by
  have hscopes : t'.scopes = t.scopes := hs.principals_eq.2.2
  have hdefault : ∀ s ∈ issued.scopes, s ∈ t.scopes.rows := fun s hmem ↦
    (Tables.mem_defaultScopes.mp (hs.scopes_eq ▸ hmem)).1
  refine ⟨fun p hp ↦ ?_, fun p hp s hmem ↦ ?_, fun p hp s hmem ↦ ?_, fun p hp hrow s hmem ↦ ?_⟩
  · rcases List.mem_append.mp hp with hp | hp
    · exact h.ordered p hp
    · obtain rfl := List.mem_singleton.mp hp
      rw [hs.scopes_eq]
      exact hi.ascending_defaultScopes
  · change _ ≤ t'.scopes.last
    rw [hscopes]
    rcases List.mem_append.mp hp with hp | hp
    · exact h.counted p hp s hmem
    · obtain rfl := List.mem_singleton.mp hp
      exact (hi.scopes.counted s (hdefault s hmem)).2
  · rw [hscopes]
    rcases List.mem_append.mp hp with hp | hp
    · exact h.rows p hp s hmem
    · obtain rfl := List.mem_singleton.mp hp
      have hrow := hdefault s hmem
      exact iff_of_true hrow fun hdel ↦ (ha.deleted _ hdel).2 (List.mem_map_of_mem hrow)
  · rw [hscopes] at hmem
    rcases List.mem_append.mp hp with hp | hp
    · obtain ⟨a, hrow, hid⟩ := List.mem_map.mp hrow
      have hne : p.2.accessTokenId ≠ issued.accessTokenId := by
        rw [hs.accessTokenId_eq]
        exact Int.ne_of_lt (Int.lt_add_one_of_le (hl.counted p hp).2)
      rcases hs.mem_accessTokens.mp hrow with ⟨hold, hkept⟩ | rfl
      · rw [← h.links p hp (List.mem_map.mpr ⟨a, hold, hid⟩) s hmem, ← hid]
        exact hs.mem_links hi hold hkept
      · exact absurd hid.symm hne
    · obtain rfl := List.mem_singleton.mp hp
      exact hs.mem_links_new hi hmem

end Grants

end TokenMint.Store
