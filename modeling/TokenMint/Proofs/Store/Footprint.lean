import TokenMint.Proofs.Store.Account
import TokenMint.Proofs.Store.Readiness

/-! # The footprint of a stored pair

To store a pair is to add one row for each of its tokens and one link for each default scope, and
to take out no more than the refresh token that it replaces, the access token issued with that one,
and the links of that access token.  The removal goes through the rows by the number of the refresh
token; as no two rows share it, what goes is one row of each table: `Tables.Stores.footprint`. -/

namespace TokenMint.Store.Tables

variable (t : Tables)

/-- The access token that has been issued with a refresh token, if it is still there. -/
def partner (r : RefreshRow) : Option AccessRow :=
  t.accessTokens.rows.find? (·.refreshTokenId = r.id)

/-- The links of an access token. -/
def linksOf (accessTokenId : Int) : List Link := t.links.filter (·.accessTokenId = accessTokenId)

/-- One pair comes, at most one refresh token goes with its partner, and all else stays. -/
structure Footprint (gone : Option RefreshRow) (p : NewPair × IssuedPair) (t' : Tables) : Prop where
  users : t'.users = t.users
  clients : t'.clients = t.clients
  scopes : t'.scopes = t.scopes
  refreshTokens : t'.refreshTokens.rows =
    t.refreshTokens.rows.filter (some · ≠ gone) ++ [refreshRow p.1 p.2.refreshTokenId]
  accessTokens : t'.accessTokens.rows =
    t.accessTokens.rows.filter (some · ≠ gone.bind t.partner) ++
      [accessRow p.1 p.2.refreshTokenId p.2.accessTokenId]
  links : t'.links =
    t.links.filter (some ·.accessTokenId ≠ (gone.bind t.partner).map (·.id)) ++
      t.defaultScopes.map fun s ↦ ⟨p.2.accessTokenId, s.id⟩
  refreshTokenId : p.2.refreshTokenId ∉ t.ids .refreshTokens
  accessTokenId : p.2.accessTokenId ∉ t.ids .accessTokens

variable {t} {t' : Tables} {gone : Option RefreshRow}

/-! ## Partners -/

theorem Integrity.partner_eq_some (h : t.Integrity) {r : RefreshRow} {a : AccessRow} :
    t.partner r = some a ↔ a ∈ t.accessTokens.rows ∧ a.refreshTokenId = r.id := by
  constructor
  · intro ha
    exact ⟨List.mem_of_find?_eq_some ha, by simpa using List.find?_some ha⟩
  · rintro ⟨ha, hid⟩
    rw [partner, ← hid]
    exact find?_key h.single ha

/-- What goes with a refresh token is the access token with its number. -/
theorem Integrity.bind_partner (h : t.Integrity) {a : AccessRow} (ha : a ∈ t.accessTokens.rows) :
    some a = gone.bind t.partner ↔ some a.refreshTokenId = gone.map (·.id) := by
  cases gone with
  | none => simp
  | some r => simp [eq_comm (a := some a), h.partner_eq_some, ha]

theorem mem_of_bind_partner {a : AccessRow} (h : gone.bind t.partner = some a) :
    a ∈ t.accessTokens.rows := by
  obtain ⟨r, -, ha⟩ := Option.bind_eq_some_iff.mp h
  exact List.mem_of_find?_eq_some ha

/-! ## Storing -/

section Stores

variable {pair : NewPair} {issued : IssuedPair}

/-- A stored pair takes out the links of the access tokens that it replaces, and gets its own. -/
theorem Stores.links_eq (h : t.Stores pair issued t') :
    t'.links =
      t.links.filter (fun l ↦ ∀ a ∈ t.accessTokens.rows,
        some a.refreshTokenId = pair.supersedes → a.id ≠ l.accessTokenId) ++
        t.defaultScopes.map fun s ↦ ⟨issued.accessTokenId, s.id⟩ := by
  rw [h.issued_eq, h.tables_eq]
  cases pair.supersedes with
  | none => simp [without, withPair, nextPair]
  | some id =>
    refine congrArg (· ++ _) (List.filter_congr fun l _ ↦ ?_)
    rw [Bool.eq_iff_iff]
    simp

theorem Stores.principals_eq (h : t.Stores pair issued t') :
    t'.users = t.users ∧ t'.clients = t.clients ∧ t'.scopes = t.scopes := by
  rw [h.tables_eq]
  cases pair.supersedes <;> exact ⟨rfl, rfl, rfl⟩

/-- The numbers of a stored pair are new. -/
theorem Stores.ids_new (h : t.Stores pair issued t') (hi : t.Integrity) :
    issued.refreshTokenId ∉ t.ids .refreshTokens ∧ issued.accessTokenId ∉ t.ids .accessTokens := by
  rw [h.refreshTokenId_eq, h.accessTokenId_eq]
  constructor <;>
  · intro hmem
    have := hi.id_le_last hmem
    omega

/-- To store a pair touches nothing but the pair and what it replaces. -/
theorem Stores.footprint (h : t.Stores pair issued t') (hi : t.Integrity)
    (hgone : ∀ r ∈ gone, r ∈ t.refreshTokens.rows) (hid : gone.map (·.id) = pair.supersedes) :
    t.Footprint gone (pair, issued) t' := by
  obtain ⟨husers, hclients, hscopes⟩ := h.principals_eq
  obtain ⟨hrefresh, haccess⟩ := h.ids_new hi
  refine ⟨husers, hclients, hscopes, ?_, ?_, ?_, hrefresh, haccess⟩
  · rw [h.refreshRows, ← hid]
    refine congrArg (· ++ _) (List.filter_congr fun r hr ↦ decide_eq_decide.mpr (not_congr ?_))
    cases gone with
    | none => simp
    | some g =>
      rw [Option.map_some, Option.some_inj, Option.some_inj]
      exact ⟨List.inj_on_of_nodup_map hi.refreshTokens.ids hr (hgone g rfl), congrArg _⟩
  · rw [h.accessRows, ← hid]
    refine congrArg (· ++ _) (List.filter_congr fun a ha ↦ decide_eq_decide.mpr (not_congr ?_))
    exact (hi.bind_partner ha).symm
  · rw [h.links_eq, ← hid]
    refine congrArg (· ++ _) (List.filter_congr fun l _ ↦ decide_eq_decide.mpr ?_)
    constructor
    · intro hl heq
      obtain ⟨a, hpartner, hlink⟩ := Option.map_eq_some_iff.mp heq.symm
      have ha := mem_of_bind_partner hpartner
      exact hl a ha ((hi.bind_partner ha).mp hpartner.symm) hlink
    · intro hl a ha haid hlink
      rw [← (hi.bind_partner ha).mpr haid, ← hlink] at hl
      exact hl rfl

end Stores

/-! ## What stays -/

/-- The scopes of an access token are those of its links. -/
theorem scopesOf_eq (t : Tables) (id : Int) :
    t.scopesOf id = ((t.scopes.rows.filter fun s ↦ (t.linksOf id).any (·.scopeId = s.id)).map
      (·.name)).mergeSort byBytes := by
  have hany (s : Scope) : (t.linksOf id).any (·.scopeId = s.id) =
      t.links.any fun l ↦ l.accessTokenId = id && l.scopeId = s.id :=
    List.any_filter
  simp only [scopesOf, hany]

theorem scopesOf_congr {id : Int} (hs : t'.scopes = t.scopes) (hl : t'.linksOf id = t.linksOf id) :
    t'.scopesOf id = t.scopesOf id := by
  rw [scopesOf_eq, scopesOf_eq, hs, hl]

namespace Footprint

variable {p : NewPair × IssuedPair}

theorem refresh_stays (h : t.Footprint gone p t') {r : RefreshRow} (hr : r ∈ t.refreshTokens.rows)
    (hne : some r ≠ gone) : r ∈ t'.refreshTokens.rows := by
  rw [h.refreshTokens]
  exact List.mem_append_left _ (List.mem_filter.mpr ⟨hr, decide_eq_true hne⟩)

/-- An access token that does not go keeps its row, its links and its scopes. -/
theorem access_stays (h : t.Footprint gone p t') (hi : t.Integrity) {a : AccessRow}
    (ha : a ∈ t.accessTokens.rows) (hne : some a ≠ gone.bind t.partner) :
    a ∈ t'.accessTokens.rows ∧ t'.linksOf a.id = t.linksOf a.id ∧
      t'.scopesOf a.id = t.scopesOf a.id := by
  have hlinks : t'.linksOf a.id = t.linksOf a.id := by
    have hnew : p.2.accessTokenId ≠ a.id := fun heq ↦
      h.accessTokenId (heq ▸ List.mem_map_of_mem ha)
    have hold : some a.id ≠ (gone.bind t.partner).map (·.id) := by
      intro heq
      obtain ⟨b, hb, hid⟩ := Option.map_eq_some_iff.mp heq.symm
      have hba := List.inj_on_of_nodup_map hi.accessTokens.ids (mem_of_bind_partner hb) ha hid
      exact hne (hba ▸ hb.symm)
    rw [linksOf, h.links, List.filter_append, List.filter_filter]
    have hnone : (t.defaultScopes.map fun s ↦ (⟨p.2.accessTokenId, s.id⟩ : Link)).filter
        (·.accessTokenId = a.id) = [] := by
      simpa [List.filter_eq_nil_iff] using fun _ _ ↦ hnew
    rw [hnone, List.append_nil, linksOf]
    refine List.filter_congr fun l _ ↦ ?_
    rw [Bool.eq_iff_iff, Bool.and_eq_true, decide_eq_true_iff, decide_eq_true_iff]
    exact and_iff_left_of_imp fun heq ↦ heq ▸ hold
  refine ⟨?_, hlinks, scopesOf_congr h.scopes hlinks⟩
  rw [h.accessTokens]
  exact List.mem_append_left _ (List.mem_filter.mpr ⟨ha, decide_eq_true hne⟩)

end Footprint

end TokenMint.Store.Tables
