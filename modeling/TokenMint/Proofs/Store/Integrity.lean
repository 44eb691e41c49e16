import Mathlib.Data.List.Nodup
import TokenMint.Proofs.Store.Exchange

/-! # The integrity of the tables

Names and tokens are unique, numbers lie within what has been counted, and what a row refers to is
there.  Whatever can happen to the tables is one of a few moves, and every move keeps all this. -/

namespace TokenMint.Store

/-! ## One table -/

namespace Table

variable {ρ : Type}

/-- The rows of a table differ in a key and in their numbers, which have been counted. -/
structure Keyed (t : Table ρ) (id : ρ → Int) (key : ρ → String) : Prop where
  keys : (t.rows.map key).Nodup
  ids : (t.rows.map id).Nodup
  counted : ∀ r ∈ t.rows, 0 < id r ∧ id r ≤ t.last
  last : 0 ≤ t.last

namespace Keyed

variable {t : Table ρ} {id : ρ → Int} {key : ρ → String}

theorem empty : Keyed ({} : Table ρ) id key where
  keys := List.nodup_nil
  ids := List.nodup_nil
  counted _ h := absurd h List.not_mem_nil
  last := Int.le_refl 0

/-- No row has the next number yet. -/
theorem ne_next (h : t.Keyed id key) {r : ρ} (hr : r ∈ t.rows) : id r ≠ t.next := by
  have := (h.counted r hr).2
  unfold next
  omega

theorem add (h : t.Keyed id key) {row : Int → ρ} (hid : ∀ n, id (row n) = n)
    (hkey : ∀ r ∈ t.rows, key r ≠ key (row t.next)) : (t.add row).Keyed id key where
  keys := by
    rw [rows_add, List.map_append, List.nodup_append]
    refine ⟨h.keys, List.nodup_singleton _, ?_⟩
    intro a ha b hb
    obtain ⟨r, hr, rfl⟩ := List.mem_map.mp ha
    obtain rfl := List.mem_singleton.mp hb
    exact hkey r hr
  ids := by
    rw [rows_add, List.map_append, List.nodup_append]
    refine ⟨h.ids, List.nodup_singleton _, ?_⟩
    intro a ha b hb
    obtain ⟨r, hr, rfl⟩ := List.mem_map.mp ha
    obtain rfl := List.mem_singleton.mp hb
    rw [hid]
    exact h.ne_next hr
  counted := by
    have := h.last
    intro r hr
    rw [last_add, next]
    rcases List.mem_append.mp hr with hr | hr
    · have := h.counted r hr
      omega
    · obtain rfl := List.mem_singleton.mp hr
      rw [hid, next]
      omega
  last := by
    have := h.last
    rw [last_add, next]
    omega

theorem keep (h : t.Keyed id key) (p : ρ → Bool) : (t.keep p).Keyed id key where
  keys := h.keys.sublist (List.filter_sublist.map key)
  ids := h.ids.sublist (List.filter_sublist.map id)
  counted r hr := h.counted r (List.mem_of_mem_filter hr)
  last := h.last

/-- Rows with the same key are the same. -/
theorem eq_of_key (h : t.Keyed id key) {r₁ r₂ : ρ} (h₁ : r₁ ∈ t.rows) (h₂ : r₂ ∈ t.rows)
    (heq : key r₁ = key r₂) : r₁ = r₂ :=
  List.inj_on_of_nodup_map h.keys h₁ h₂ heq

end Keyed

end Table

/-! ## All tables -/

namespace Tables

/-- An owner stays as long as the rows for owners do. -/
theorem HasOwner.mono {t t' : Tables} {o : Owner} (h : t.HasOwner o)
    (hc : ∀ c ∈ t.clients.rows, c ∈ t'.clients.rows)
    (hu : ∀ u ∈ t.users.rows, u ∈ t'.users.rows) : t'.HasOwner o := by
  cases o with
  | client id =>
    obtain ⟨c, hmem, hid⟩ := h
    exact ⟨c, hc c hmem, hid⟩
  | user id =>
    obtain ⟨u, hmem, hid⟩ := h
    exact ⟨u, hu u hmem, hid⟩

/-- The tables hang together. -/
structure Integrity (t : Tables) : Prop where
  users : t.users.Keyed (·.id) (·.username)
  clients : t.clients.Keyed (·.id) (·.clientId)
  scopes : t.scopes.Keyed (·.id) (·.name)
  refreshTokens : t.refreshTokens.Keyed (·.id) (·.token)
  accessTokens : t.accessTokens.Keyed (·.id) (·.token)
  /-- An access token has exactly one owner, who has a row. -/
  owner : ∀ a ∈ t.accessTokens.rows, ∃ o : Owner,
    a.clientId = o.clientId? ∧ a.userId = o.userId? ∧ t.HasOwner o
  refresh : ∀ a ∈ t.accessTokens.rows, ∃ r ∈ t.refreshTokens.rows, r.id = a.refreshTokenId
  /-- No two access tokens share a refresh token. -/
  single : (t.accessTokens.rows.map (·.refreshTokenId)).Nodup
  linked : ∀ l ∈ t.links,
    (∃ a ∈ t.accessTokens.rows, a.id = l.accessTokenId) ∧ ∃ s ∈ t.scopes.rows, s.id = l.scopeId
  once : t.links.Nodup

namespace Integrity

variable {t : Tables}

theorem empty : Integrity {} where
  users := .empty
  clients := .empty
  scopes := .empty
  refreshTokens := .empty
  accessTokens := .empty
  owner _ h := absurd h List.not_mem_nil
  refresh _ h := absurd h List.not_mem_nil
  single := List.nodup_nil
  linked _ h := absurd h List.not_mem_nil
  once := List.nodup_nil

/-! ### New names -/

theorem addUser (h : t.Integrity) {username hash : String} {id : Int} {t' : Tables}
    (ht : t.addUser username hash = .ok (id, t')) : t'.Integrity := by
  obtain ⟨hno, -, rfl⟩ := addUser_eq_ok ht
  have hadd : (t.users.add fun id ↦ { id, username, hash }).Keyed (·.id) (·.username) :=
    h.users.add (fun _ ↦ rfl) hno
  refine { h with users := hadd, owner := fun a ha ↦ ?_ }
  obtain ⟨o, hc, hu, ho⟩ := h.owner a ha
  exact ⟨o, hc, hu, ho.mono (fun _ hc ↦ hc) fun _ hu ↦ List.mem_append_left _ hu⟩

theorem addClient (h : t.Integrity) {clientId hash : String} {id : Int} {t' : Tables}
    (ht : t.addClient clientId hash = .ok (id, t')) : t'.Integrity := by
  obtain ⟨hno, -, rfl⟩ := addClient_eq_ok ht
  have hadd : (t.clients.add fun id ↦ { id, clientId, hash }).Keyed (·.id) (·.clientId) :=
    h.clients.add (fun _ ↦ rfl) hno
  refine { h with clients := hadd, owner := fun a ha ↦ ?_ }
  obtain ⟨o, hc, hu, ho⟩ := h.owner a ha
  exact ⟨o, hc, hu, ho.mono (fun _ hc ↦ List.mem_append_left _ hc) fun _ hu ↦ hu⟩

theorem addScope (h : t.Integrity) {name : String} {isDefault : Bool} {id : Int} {t' : Tables}
    (ht : t.addScope name isDefault = .ok (id, t')) : t'.Integrity := by
  obtain ⟨hno, -, rfl⟩ := addScope_eq_ok ht
  have hadd : (t.scopes.add fun id ↦ { id, name, isDefault }).Keyed (·.id) (·.name) :=
    h.scopes.add (fun _ ↦ rfl) hno
  refine { h with scopes := hadd, linked := fun l hl ↦ ?_ }
  obtain ⟨ha, s, hs, hid⟩ := h.linked l hl
  exact ⟨ha, s, List.mem_append_left _ hs, hid⟩

/-! ### Removals -/

/-- Access tokens go with their links, so no link is left dangling. -/
theorem removeAccess (h : t.Integrity) (gone : AccessRow → Bool) :
    (t.removeAccess gone).Integrity where
  users := h.users
  clients := h.clients
  scopes := h.scopes
  refreshTokens := h.refreshTokens
  accessTokens := h.accessTokens.keep _
  owner a ha := h.owner a (List.mem_of_mem_filter ha)
  refresh a ha := h.refresh a (List.mem_of_mem_filter ha)
  single := h.single.sublist (List.filter_sublist.map _)
  linked := by
    intro l hl
    obtain ⟨hl, hkept⟩ := List.mem_filter.mp hl
    obtain ⟨⟨a, ha, hid⟩, hs⟩ := h.linked l hl
    refine ⟨⟨a, List.mem_filter.mpr ⟨ha, ?_⟩, hid⟩, hs⟩
    -- a link of an access token that goes would have gone as well
    cases hgone : gone a with
    | false => rfl
    | true =>
      have : t.accessTokens.rows.any (fun r ↦ gone r && r.id = l.accessTokenId) = true :=
        List.any_eq_true.mpr ⟨a, ha, by simp [hgone, hid]⟩
      simp [this] at hkept
  once := h.once.sublist List.filter_sublist

theorem not_gone {gone : AccessRow → Bool} {a : AccessRow}
    (ha : a ∈ (t.removeAccess gone).accessTokens.rows) : gone a = false := by
  simpa using (List.mem_filter.mp ha).2

theorem removeUser (h : t.Integrity) (id : Int) : (t.removeUser id).Integrity := by
  have h' := h.removeAccess (·.userId = some id)
  refine { h' with users := h.users.keep _, owner := fun a ha ↦ ?_ }
  obtain ⟨o, hc, hu, ho⟩ := h'.owner a ha
  refine ⟨o, hc, hu, ?_⟩
  cases o with
  | client c => exact ho
  | user u =>
    obtain ⟨r, hr, rfl⟩ := ho
    refine ⟨r, List.mem_filter.mpr ⟨hr, ?_⟩, rfl⟩
    have hne : a.userId ≠ some id := by simpa using not_gone ha
    rw [hu] at hne
    simpa [Owner.userId?] using hne

theorem removeClient (h : t.Integrity) (id : Int) : (t.removeClient id).Integrity := by
  have h' := h.removeAccess (·.clientId = some id)
  refine { h' with clients := h.clients.keep _, owner := fun a ha ↦ ?_ }
  obtain ⟨o, hc, hu, ho⟩ := h'.owner a ha
  refine ⟨o, hc, hu, ?_⟩
  cases o with
  | user u => exact ho
  | client c =>
    obtain ⟨r, hr, rfl⟩ := ho
    refine ⟨r, List.mem_filter.mpr ⟨hr, ?_⟩, rfl⟩
    have hne : a.clientId ≠ some id := by simpa using not_gone ha
    rw [hc] at hne
    simpa [Owner.clientId?] using hne

theorem removeScope (h : t.Integrity) (id : Int) : (t.removeScope id).Integrity := by
  refine { h with
    scopes := h.scopes.keep _
    once := h.once.sublist List.filter_sublist
    linked := fun l hl ↦ ?_ }
  obtain ⟨hl, hne⟩ := List.mem_filter.mp hl
  obtain ⟨ha, s, hs, hid⟩ := h.linked l hl
  exact ⟨ha, s, List.mem_filter.mpr ⟨hs, by simpa [hid] using hne⟩, hid⟩

theorem removeRefresh (h : t.Integrity) (id : Int) : (t.removeRefresh id).Integrity := by
  have h' := h.removeAccess (·.refreshTokenId = id)
  refine { h' with refreshTokens := h.refreshTokens.keep _, refresh := fun a ha ↦ ?_ }
  obtain ⟨r, hr, hid⟩ := h'.refresh a ha
  have hne : a.refreshTokenId ≠ id := by simpa using not_gone ha
  exact ⟨r, List.mem_filter.mpr ⟨hr, by simpa [hid] using hne⟩, hid⟩

theorem remove (h : t.Integrity) (n : TableName) (id : Int) : (t.remove n id).Integrity := by
  cases n with
  | users => exact h.removeUser id
  | clients => exact h.removeClient id
  | scopes => exact h.removeScope id
  | refreshTokens => exact h.removeRefresh id
  | accessTokens => exact h.removeAccess _
  | links => exact h

/-! ### New pairs -/

theorem without (h : t.Integrity) (supersedes : Option Int) : (t.without supersedes).Integrity := by
  cases supersedes with
  | none => exact h
  | some id => exact h.removeRefresh id

theorem nodup_defaultScopes (h : t.Integrity) : (t.defaultScopes.map (·.id)).Nodup :=
  ((List.mergeSort_perm _ _).map _).nodup_iff.mpr (h.scopes.ids.sublist (List.filter_sublist.map _))

theorem withPair (h : t.Integrity) {pair : NewPair} (hp : t.Accepts pair) :
    (t.withPair pair).Integrity where
  users := h.users
  clients := h.clients
  scopes := h.scopes
  refreshTokens := h.refreshTokens.add (fun _ ↦ rfl) hp.refreshToken
  accessTokens := h.accessTokens.add (fun _ ↦ rfl) hp.accessToken
  owner := by
    intro a ha
    rcases List.mem_append.mp ha with ha | ha
    · exact h.owner a ha
    · obtain rfl := List.mem_singleton.mp ha
      exact ⟨pair.owner, rfl, rfl, hp.owner⟩
  refresh := by
    intro a ha
    rcases List.mem_append.mp ha with ha | ha
    · obtain ⟨r, hr, hid⟩ := h.refresh a ha
      exact ⟨r, List.mem_append_left _ hr, hid⟩
    · obtain rfl := List.mem_singleton.mp ha
      exact ⟨_, List.mem_append_right _ (List.mem_singleton_self _), rfl⟩
  single := by
    change ((t.accessTokens.rows ++ [_]).map _).Nodup
    rw [List.map_append, List.nodup_append]
    refine ⟨h.single, List.nodup_singleton _, ?_⟩
    intro a ha b hb
    obtain ⟨r, hr, rfl⟩ := List.mem_map.mp ha
    obtain rfl := List.mem_singleton.mp hb
    obtain ⟨x, hx, hid⟩ := h.refresh r hr
    rw [← hid]
    exact h.refreshTokens.ne_next hx
  linked := by
    intro l hl
    rcases List.mem_append.mp hl with hl | hl
    · obtain ⟨⟨a, ha, hid⟩, hs⟩ := h.linked l hl
      exact ⟨⟨a, List.mem_append_left _ ha, hid⟩, hs⟩
    · obtain ⟨s, hs, rfl⟩ := List.mem_map.mp hl
      refine ⟨⟨_, List.mem_append_right _ (List.mem_singleton_self _), rfl⟩, s, ?_, rfl⟩
      exact List.mem_of_mem_filter ((List.mergeSort_perm _ _).mem_iff.mp hs)
  once := by
    change (t.links ++ t.defaultScopes.map _).Nodup
    rw [List.nodup_append]
    refine ⟨h.once, ?_, ?_⟩
    · refine List.Nodup.of_map (fun l : Link ↦ l.scopeId) ?_
      rw [List.map_map]
      exact h.nodup_defaultScopes
    · intro l hl l' hl' heq
      obtain ⟨s, -, rfl⟩ := List.mem_map.mp hl'
      obtain ⟨⟨a, ha, hid⟩, -⟩ := h.linked l hl
      rw [heq] at hid
      exact h.accessTokens.ne_next ha hid

end Integrity

/-! ## Moves -/

/-- What can happen to the tables, with the pair that is stored if one is. -/
inductive Moves : Tables → Option (NewPair × IssuedPair) → Tables → Prop
  | stay (t : Tables) : Moves t none t
  | addUser {t t' : Tables} {username hash : String} {id : Int}
    (h : t.addUser username hash = .ok (id, t')) : Moves t none t'
  | addClient {t t' : Tables} {clientId hash : String} {id : Int}
    (h : t.addClient clientId hash = .ok (id, t')) : Moves t none t'
  | addScope {t t' : Tables} {name : String} {isDefault : Bool} {id : Int}
    (h : t.addScope name isDefault = .ok (id, t')) : Moves t none t'
  | remove (t : Tables) (n : TableName) (id : Int) : Moves t none (t.remove n id)
  | store {t t' : Tables} {pair : NewPair} {issued : IssuedPair} (h : t.Stores pair issued t') :
    Moves t (some (pair, issued)) t'

theorem Integrity.stores {t t' : Tables} {pair : NewPair} {issued : IssuedPair}
    (h : t.Integrity) (hs : t.Stores pair issued t') : t'.Integrity := by
  rw [hs.tables_eq]
  exact (h.without pair.supersedes).withPair hs.accepts

/-- Every move keeps the integrity of the tables. -/
theorem Integrity.moves {t t' : Tables} {stored : Option (NewPair × IssuedPair)}
    (h : t.Integrity) (hm : t.Moves stored t') : t'.Integrity := by
  cases hm with
  | stay => exact h
  | addUser ht => exact h.addUser ht
  | addClient ht => exact h.addClient ht
  | addScope ht => exact h.addScope ht
  | remove n id => exact h.remove n id
  | store hs => exact h.stores hs

end Tables

end TokenMint.Store
