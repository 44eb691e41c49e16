import TokenMint.Proofs.Store.Integrity

/-! # The numbers of rows

A table gives out each number once: a row that is new has a number beyond the last one, and the last
one never goes back.  So a number says which row is meant, whenever it is said, and one that has
been taken out stays out. -/

namespace TokenMint

/-- The table that has the row of an owner. -/
def Owner.table : Owner → Store.TableName
  | .client _ => .clients
  | .user _ => .users

/-- The number of the row of an owner. -/
def Owner.id : Owner → Int
  | .client id | .user id => id

/-- Two columns name one owner. -/
theorem Owner.columns_inj {o o' : Owner} (hc : o.clientId? = o'.clientId?)
    (hu : o.userId? = o'.userId?) : o = o' := by
  rw [← Option.some_inj, ← ofColumns?_columns o, ← ofColumns?_columns o', hc, hu]

namespace Store

theorem Table.Keyed.counted_map {ρ : Type} {t : Table ρ} {id : ρ → Int} {key : ρ → String}
    (h : t.Keyed id key) {n : Int} (hn : n ∈ t.rows.map id) : 0 < n ∧ n ≤ t.last := by
  obtain ⟨r, hr, rfl⟩ := List.mem_map.mp hn
  exact h.counted r hr

theorem Table.map_keep_subset {ρ β : Type} (t : Table ρ) (p : ρ → Bool) (f : ρ → β) :
    (t.keep p).rows.map f ⊆ t.rows.map f :=
  List.map_subset f List.filter_sublist.subset

namespace Tables

variable (t : Tables)

/-- The last number that a table has given out. -/
def last : TableName → Int
  | .users => t.users.last
  | .clients => t.clients.last
  | .scopes => t.scopes.last
  | .refreshTokens => t.refreshTokens.last
  | .accessTokens => t.accessTokens.last
  | .links => 0

variable {t} {t' t'' : Tables}

theorem hasOwner_iff {o : Owner} : t.HasOwner o ↔ o.id ∈ t.ids o.table := by
  cases o <;> simp [HasOwner, ids, Owner.id, Owner.table]

theorem Integrity.id_le_last (h : t.Integrity) {n : TableName} {id : Int} (hid : id ∈ t.ids n) :
    id ≤ t.last n := by
  cases n with
  | users => exact (h.users.counted_map hid).2
  | clients => exact (h.clients.counted_map hid).2
  | scopes => exact (h.scopes.counted_map hid).2
  | refreshTokens => exact (h.refreshTokens.counted_map hid).2
  | accessTokens => exact (h.accessTokens.counted_map hid).2
  | links => exact absurd hid List.not_mem_nil

/-! ## Numbers are given out once -/

/-- Between two states of the tables, no number has been given out that had been before. -/
structure Counts (t t' : Tables) : Prop where
  last : ∀ n, t.last n ≤ t'.last n
  ids : ∀ n, ∀ id ∈ t'.ids n, id ∈ t.ids n ∨ t.last n < id

namespace Counts

theorem refl (t : Tables) : Counts t t where
  last _ := Int.le_refl _
  ids _ _ h := .inl h

theorem trans (h : Counts t t') (h' : Counts t' t'') : Counts t t'' where
  last n := Int.le_trans (h.last n) (h'.last n)
  ids n id hid := by
    rcases h'.ids n id hid with hid | hid
    · exact h.ids n id hid
    · exact .inr (Int.lt_of_le_of_lt (h.last n) hid)

/-- A number that has been given out and is not there does not come back. -/
theorem not_mem (h : Counts t t') {n : TableName} {id : Int} (hle : id ≤ t.last n)
    (hid : id ∉ t.ids n) : id ∉ t'.ids n := by
  intro hid'
  rcases h.ids n id hid' with hold | hnew
  · exact hid hold
  · exact absurd hle (Int.not_le.mpr hnew)

/-- It is enough that no table has new rows, or one under its next number. -/
theorem of_tables (h : ∀ n, t'.last n = t.last n ∧ t'.ids n ⊆ t.ids n ∨
    t'.last n = t.last n + 1 ∧ t'.ids n = t.ids n ++ [t.last n + 1]) : Counts t t' where
  last n := by
    rcases h n with ⟨hl, -⟩ | ⟨hl, -⟩ <;> omega
  ids n id hid := by
    rcases h n with ⟨-, hi⟩ | ⟨-, hi⟩
    · exact .inl (hi hid)
    · rw [hi, List.mem_append, List.mem_singleton] at hid
      rcases hid with hid | rfl
      · exact .inl hid
      · exact .inr (Int.lt_succ _)

/-- Deleting a row takes rows out of some tables, and puts none in. -/
theorem remove (t : Tables) (m : TableName) (id : Int) : Counts t (t.remove m id) := by
  refine of_tables fun n ↦ .inl ⟨by cases m <;> cases n <;> rfl, ?_⟩
  cases m with
  | users =>
    cases n with
    | users | accessTokens => exact Table.map_keep_subset ..
    | _ => exact List.Subset.refl _
  | clients =>
    cases n with
    | clients | accessTokens => exact Table.map_keep_subset ..
    | _ => exact List.Subset.refl _
  | scopes =>
    cases n with
    | scopes => exact Table.map_keep_subset ..
    | _ => exact List.Subset.refl _
  | refreshTokens =>
    cases n with
    | refreshTokens | accessTokens => exact Table.map_keep_subset ..
    | _ => exact List.Subset.refl _
  | accessTokens =>
    cases n with
    | accessTokens => exact Table.map_keep_subset ..
    | _ => exact List.Subset.refl _
  | links => exact List.Subset.refl _

theorem without (t : Tables) (supersedes : Option Int) : Counts t (t.without supersedes) := by
  cases supersedes with
  | none => exact refl t
  | some id => exact remove t .refreshTokens id

theorem withPair (t : Tables) (pair : NewPair) : Counts t (t.withPair pair) := by
  refine of_tables fun n ↦ ?_
  cases n with
  | refreshTokens | accessTokens => exact .inr ⟨rfl, List.map_append ..⟩
  | _ => exact .inl ⟨rfl, List.Subset.refl _⟩

/-- Every move gives out new numbers only. -/
theorem moves {stored : Option (NewPair × IssuedPair)} (h : t.Moves stored t') : Counts t t' := by
  cases h with
  | stay => exact refl t
  | remove n id => exact remove t n id
  | store h =>
    rw [h.tables_eq]
    exact (without t _).trans (withPair _ _)
  | addUser h =>
    obtain ⟨-, -, rfl⟩ := addUser_eq_ok h
    refine of_tables fun n ↦ ?_
    cases n with
    | users => exact .inr ⟨rfl, List.map_append ..⟩
    | _ => exact .inl ⟨rfl, List.Subset.refl _⟩
  | addClient h =>
    obtain ⟨-, -, rfl⟩ := addClient_eq_ok h
    refine of_tables fun n ↦ ?_
    cases n with
    | clients => exact .inr ⟨rfl, List.map_append ..⟩
    | _ => exact .inl ⟨rfl, List.Subset.refl _⟩
  | addScope h =>
    obtain ⟨-, -, rfl⟩ := addScope_eq_ok h
    refine of_tables fun n ↦ ?_
    cases n with
    | scopes => exact .inr ⟨rfl, List.map_append ..⟩
    | _ => exact .inl ⟨rfl, List.Subset.refl _⟩

end Counts

end Tables

end Store

end TokenMint
