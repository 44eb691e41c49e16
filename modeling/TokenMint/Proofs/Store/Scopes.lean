import Mathlib.Data.List.Perm.Basic
import TokenMint.Proofs.Store.Footprint

/-! # The scopes of a stored pair

The default scopes are read once to be told and to be linked one by one, and the links are read back
through another query that puts the names in order anew.  Both come out the same: as no name is
there twice, there is one way only to put names in the order of their bytes, whatever the order in
which the scopes have been added. -/

namespace TokenMint

/-- The bytes in which a text is coded. -/
def Text.bytes (s : String) : List UInt8 := s.toUTF8.data.toList

theorem Text.bytes_injective : Function.Injective bytes := fun _ _ h ↦
  String.toByteArray_inj.mp (ByteArray.ext (Array.toList_inj.mp h))

namespace Store.Tables

/-! ## Names in order -/

/-- Each name comes before those that follow, byte by byte, and none is there twice. -/
def Ascending (names : List String) : Prop :=
  names.Pairwise fun a b ↦ Text.bytes a < Text.bytes b

instance (names : List String) : Decidable (Ascending names) :=
  inferInstanceAs (Decidable (names.Pairwise _))

namespace Ascending

variable {l l' : List String}

theorem nodup (h : Ascending l) : l.Nodup := by
  refine List.Pairwise.imp (fun {a b} hlt ↦ ?_) h
  rintro rfl
  exact List.lt_irrefl _ hlt

/-- There is one way only to put names in order. -/
theorem eq_of_mem_iff (h : Ascending l) (h' : Ascending l') (hmem : ∀ s, s ∈ l ↔ s ∈ l') :
    l = l' := by
  refine List.Perm.eq_of_pairwise (fun a b _ _ hab hba ↦ ?_) h h'
    ((List.perm_ext_iff_of_nodup h.nodup h'.nodup).mpr hmem)
  exact absurd (List.lt_trans hab hba) (List.lt_irrefl _)

/-- Sorting puts names in order. -/
theorem mergeSort (h : l.Nodup) : Ascending (l.mergeSort byBytes) := by
  have hsorted : (l.mergeSort byBytes).Pairwise fun a b ↦ byBytes a b = true := by
    refine List.pairwise_mergeSort (fun a b c hab hbc ↦ ?_) (fun a b ↦ ?_) l
    · rw [byBytes, decide_eq_true_iff] at *
      exact List.le_trans hab hbc
    · rw [Bool.or_eq_true, byBytes, byBytes, decide_eq_true_iff, decide_eq_true_iff]
      exact List.le_total _ _
  have hnodup : (l.mergeSort byBytes).Nodup := (List.mergeSort_perm l _).nodup_iff.mpr h
  refine hsorted.imp₂ (fun a b hle hne ↦ ?_) hnodup
  exact Std.lt_of_le_of_ne (of_decide_eq_true hle) fun heq ↦ hne (Text.bytes_injective heq)

end Ascending

/-! ## Default scopes -/

variable {t t' : Tables}

/-- The names of the default scopes, sorted as names. -/
theorem defaultScopes_names (t : Tables) :
    t.defaultScopes.map (·.name) =
      ((t.scopes.rows.filter (·.isDefault)).map (·.name)).mergeSort byBytes :=
  List.map_mergeSort fun _ _ _ _ ↦ rfl

theorem mem_defaultScopes {s : Scope} :
    s ∈ t.defaultScopes ↔ s ∈ t.scopes.rows ∧ s.isDefault = true := by
  rw [defaultScopes, (List.mergeSort_perm _ _).mem_iff, List.mem_filter]

theorem Integrity.ascending_defaultScopes (h : t.Integrity) :
    Ascending (t.defaultScopes.map (·.name)) := by
  rw [defaultScopes_names]
  exact .mergeSort (h.scopes.keys.sublist (List.filter_sublist.map _))

/-! ## The scopes of a new access token -/

section Stores

variable {pair : NewPair} {issued : IssuedPair}

theorem Stores.scopes_eq (h : t.Stores pair issued t') : issued.scopes = t.defaultScopes := by
  rw [h.issued_eq]
  cases pair.supersedes <;> rfl

/-- The number of a new access token is new, so it has no links but its own. -/
theorem Stores.linksOf_eq (h : t.Stores pair issued t') (hi : t.Integrity) :
    t'.linksOf issued.accessTokenId =
      t.defaultScopes.map fun s ↦ ⟨issued.accessTokenId, s.id⟩ := by
  have hold : ∀ l ∈ t.links, l.accessTokenId ≠ issued.accessTokenId := by
    intro l hl heq
    obtain ⟨⟨a, ha, hid⟩, -⟩ := hi.linked l hl
    exact (h.ids_new hi).2 (List.mem_map.mpr ⟨a, ha, hid.trans heq⟩)
  rw [linksOf, h.links_eq, List.filter_append, List.filter_eq_nil_iff.mpr, List.nil_append,
    List.filter_eq_self]
  · simp
  · intro l hl
    simpa using hold l (List.mem_of_mem_filter hl)

/-- What is read back of a new access token is the list that it has been issued with. -/
theorem Stores.scopesOf_eq (h : t.Stores pair issued t') (hi : t.Integrity) :
    t'.scopesOf issued.accessTokenId = issued.scopes.map (·.name) := by
  obtain ⟨-, -, hscopes⟩ := h.principals_eq
  rw [h.scopes_eq, defaultScopes_names, Tables.scopesOf_eq, h.linksOf_eq hi, hscopes]
  congr 2
  refine List.filter_congr fun s hs ↦ ?_
  rw [Bool.eq_iff_iff, List.any_eq_true]
  constructor
  · rintro ⟨l, hl, hid⟩
    obtain ⟨d, hd, rfl⟩ := List.mem_map.mp hl
    obtain ⟨hrow, hdefault⟩ := mem_defaultScopes.mp hd
    have hds : d = s := List.inj_on_of_nodup_map hi.scopes.ids hrow hs (by simpa using hid)
    exact hds ▸ hdefault
  · intro hdefault
    exact ⟨_, List.mem_map_of_mem (mem_defaultScopes.mpr ⟨hs, hdefault⟩), by simp⟩

end Stores

end Store.Tables

end TokenMint
