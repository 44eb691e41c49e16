import Mathlib.Data.List.Nodup
import TokenMint.Store.Opening

/-! # What is at the places of a disk

To put something at a place changes what is at this place; above it there are directories from then
on where nothing was before, and all other places are left alone.  Making directories puts them
where nothing is, so whatever is there stays. -/

namespace TokenMint.Store

namespace Disk

/-- Each place is told of once. -/
def Plain (d : Disk) : Prop := (d.nodes.map (·.1)).Nodup

/-! ## Putting something -/

theorem plain_put {d : Disk} (h : d.Plain) (p : Place) (n : Node) : (d.put p n).Plain := by
  rw [Plain, put, List.map_cons, List.nodup_cons]
  constructor
  · intro hmem
    obtain ⟨x, hx, hxp⟩ := List.mem_map.mp hmem
    have hkept := (List.mem_filter.mp hx).2
    simp [hxp] at hkept
  · exact h.sublist (List.filter_sublist.map _)

/-- Where places are told of once, what is left of one is what was told of it, if that is kept. -/
theorem lookup_filter_of_nodup {l : List (Place × Node)} (h : (l.map (·.1)).Nodup)
    (keep : Place × Node → Bool) (p : Place) :
    (l.filter keep).lookup p = (l.lookup p).filter fun n ↦ keep (p, n) := by
  induction l with
  | nil => rfl
  | cons x l ih =>
    obtain ⟨q, n⟩ := x
    obtain ⟨hq, hl⟩ := List.nodup_cons.mp h
    by_cases hqp : q = p
    · subst hqp
      cases hk : keep (q, n) with
      | true => simp [hk, Option.filter]
      | false =>
        have hgone : l.lookup q = none := by
          rw [List.lookup_eq_none_iff]
          rintro ⟨r, m⟩ hmem
          rw [bne_iff_ne]
          rintro rfl
          exact hq (List.mem_map.mpr ⟨_, hmem, rfl⟩)
        simp [hk, ih hl, hgone, Option.filter]
    · have hmiss : (p == q) = false := by simpa using Ne.symm hqp
      rw [List.lookup_cons, hmiss, ← ih hl, List.filter_cons]
      split
      · rw [List.lookup_cons, hmiss]
      · rfl

/-- Above the place that something is put at, there is a directory where nothing was. -/
theorem node?_put_of_prefix {d : Disk} (hd : d.Plain) {p q : Place} (hne : q ≠ p) (h : q <+: p)
    (n : Node) : (d.put p n).node? q = some ((d.node? q).getD .directory) := by
  have hmiss : (q == p) = false := by simpa using hne
  have hpre : q.isPrefixOf p = true := List.isPrefixOf_iff_prefix.mpr h
  simp only [node?, put, List.lookup_cons, hmiss, List.any_cons, hpre, Bool.true_or, or_true,
    if_true, lookup_filter_of_nodup hd, Bool.false_or, Bool.and_true]
  cases d.nodes.lookup q with
  | none => split <;> rfl
  | some m => cases m <;> rfl

/-- What is at any place after something has been put at one. -/
theorem node?_put_eq {d : Disk} (hd : d.Plain) (p q : Place) (n : Node) :
    (d.put p n).node? q =
      if q = p then some n
      else if q <+: p then some ((d.node? q).getD .directory) else d.node? q := by
  split
  · rename_i h
    rw [h, node?_put]
  · rename_i hne
    split
    · rename_i h
      exact node?_put_of_prefix hd hne h n
    · rename_i h
      exact node?_put_of_not_prefix d n h

/-- What is at another place stays. -/
theorem node?_put_of_some {d : Disk} (hd : d.Plain) {p q : Place} (hne : q ≠ p) {m : Node}
    (h : d.node? q = some m) (n : Node) : (d.put p n).node? q = some m := by
  rw [node?_put_eq hd, if_neg hne, h]
  split <;> rfl

/-- Above what is there, there is something. -/
theorem node?_ne_none_of_prefix {d : Disk} {p q : Place} (h : q <+: p) (hp : d.node? p ≠ none) :
    d.node? q ≠ none := by
  have hbelow : q = [] ∨ d.nodes.any (q.isPrefixOf ·.1) = true := by
    cases hl : d.nodes.lookup p with
    | some n =>
      obtain ⟨l₁, l₂, hnodes, -⟩ := List.lookup_eq_some_iff.mp hl
      refine .inr (List.any_eq_true.mpr ⟨(p, n), ?_, List.isPrefixOf_iff_prefix.mpr h⟩)
      rw [hnodes]
      exact List.mem_append_right _ List.mem_cons_self
    | none =>
      simp only [node?, hl, Option.none_or, ne_eq, ite_eq_right_iff, reduceCtorEq, imp_false,
        Decidable.not_not] at hp
      rcases hp with rfl | hp
      · exact .inl (List.prefix_nil.mp h)
      · obtain ⟨x, hx, hpx⟩ := List.any_eq_true.mp hp
        have hqx := h.trans (List.isPrefixOf_iff_prefix.mp hpx)
        exact .inr (List.any_eq_true.mpr ⟨x, hx, List.isPrefixOf_iff_prefix.mpr hqx⟩)
  rw [node?, if_pos hbelow]
  cases d.nodes.lookup q <;> simp

/-! ## Databases on the disk -/

/-- The tables of the database in the file at a place.  Where there is no file there are no rows. -/
def tablesAt (d : Disk) (p : Place) : Tables :=
  match d.node? p with
  | some (.file db) => db.tables
  | _ => {}

theorem tablesAt_of_file {d : Disk} {p : Place} {db : Database} (h : d.node? p = some (.file db)) :
    d.tablesAt p = db.tables := by
  rw [tablesAt, h]

theorem tablesAt_put_of_ne {d : Disk} (hd : d.Plain) {p q : Place} (hne : q ≠ p) (n : Node) :
    (d.put p n).tablesAt q = d.tablesAt q := by
  rw [tablesAt, tablesAt, node?_put_eq hd, if_neg hne]
  by_cases hpre : q <+: p
  · rw [if_pos hpre]
    cases d.node? q <;> rfl
  · rw [if_neg hpre]

/-- No row changes if what is put has the rows that were there. -/
theorem tablesAt_put {d : Disk} (hd : d.Plain) {p : Place} {db : Database}
    (h : db.tables = d.tablesAt p) (q : Place) :
    (d.put p (.file db)).tablesAt q = d.tablesAt q := by
  by_cases hq : q = p
  · rw [hq, tablesAt_of_file (node?_put d p _), h]
  · exact tablesAt_put_of_ne hd hq _

/-! ## Making directories -/

theorem descend_cons (made : Bool) (d : Disk) (p : Place) (name : String) (names : List String) :
    d.descend made p (name :: names) =
      if name = "" ∨ name = "." then d.descend made p names
      else if name = ".." then d.descend made p.dropLast names
      else if Path.longestName < name.utf8ByteSize then (.error .longName, d)
      else
        match d.node? (p ++ [name]) with
        | some .directory => d.descend made (p ++ [name]) names
        | some _ => (.error (if made ∨ names = [] then .taken else .notDirectory), d)
        | none => (d.put (p ++ [name]) .directory).descend true (p ++ [name]) names := rfl

/-- What is kept by putting a directory where nothing is, is kept by making all those on a way. -/
theorem descend_induction {P : Disk → Prop}
    (put : ∀ d p, d.node? p = none → P d → P (d.put p .directory)) {d : Disk} (start : P d)
    (made : Bool) (p : Place) (names : List String) : P (d.descend made p names).2 := by
  induction names generalizing d made p with
  | nil => exact start
  | cons name names ih =>
    rw [descend_cons]
    split
    · exact ih start made p
    · split
      · exact ih start made p.dropLast
      · split
        · exact start
        · split
          · exact ih start made (p ++ [name])
          · exact start
          · rename_i hnone
            exact ih (put d _ hnone start) true (p ++ [name])

/-- The same of the directory of a location's file. -/
theorem prepare_induction {P : Disk → Prop}
    (put : ∀ d p, d.node? p = none → P d → P (d.put p .directory)) {d : Disk} (start : P d)
    (l : Location) : P (d.prepare l).2 := by
  cases l with
  | memory => exact start
  | file path =>
    simp only [prepare]
    split
    · exact start
    · rename_i parent _
      simp only [makeDirectory]
      by_cases hname : Path.hasBadName parent = true
      · rw [if_pos hname]
        exact start
      · rw [if_neg hname]
        split
        · exact start
        · exact descend_induction put start _ _ _

theorem prepare_home (d : Disk) (l : Location) : (d.prepare l).2.home = d.home :=
  prepare_induction (P := fun d' ↦ d'.home = d.home) (fun _ _ _ h ↦ h) rfl l

theorem prepare_plain {d : Disk} (h : d.Plain) (l : Location) : (d.prepare l).2.Plain :=
  prepare_induction (P := Plain) (fun _ p _ h ↦ plain_put h p _) h l

/-- What is there stays there when directories are put where nothing is. -/
theorem node?_put_directory {d : Disk} (hd : d.Plain) {p q : Place} (hp : d.node? p = none)
    {m : Node} (h : d.node? q = some m) : (d.put p .directory).node? q = some m := by
  refine node?_put_of_some hd ?_ h _
  rintro rfl
  rw [hp] at h
  cases h

theorem node?_descend {d : Disk} (hd : d.Plain) {q : Place} {m : Node} (h : d.node? q = some m)
    (made : Bool) (p : Place) (names : List String) :
    (d.descend made p names).2.node? q = some m :=
  (descend_induction (P := fun d ↦ d.Plain ∧ d.node? q = some m)
    (fun _ _ hp h ↦ ⟨plain_put h.1 _ _, node?_put_directory h.1 hp h.2⟩) ⟨hd, h⟩ made p names).2

theorem node?_prepare {d : Disk} (hd : d.Plain) {q : Place} {m : Node} (h : d.node? q = some m)
    (l : Location) : (d.prepare l).2.node? q = some m :=
  (prepare_induction (P := fun d ↦ d.Plain ∧ d.node? q = some m)
    (fun _ _ hp h ↦ ⟨plain_put h.1 _ _, node?_put_directory h.1 hp h.2⟩) ⟨hd, h⟩ l).2

/-- Only directories are put on the disk. -/
theorem file_of_prepare {d : Disk} (hd : d.Plain) (l : Location) {q : Place} {db : Database}
    (h : (d.prepare l).2.node? q = some (.file db)) : d.node? q = some (.file db) := by
  refine (prepare_induction (P := fun d' ↦ d'.Plain ∧
    (d'.node? q = some (.file db) → d.node? q = some (.file db))) ?_ ⟨hd, id⟩ l).2 h
  rintro d' p hp ⟨hd', hback⟩
  refine ⟨plain_put hd' p _, fun hq ↦ hback ?_⟩
  rw [node?_put_eq hd'] at hq
  split at hq
  · cases hq
  · split at hq
    · cases hnode : d'.node? q with
      | none =>
        rw [hnode] at hq
        cases hq
      | some n =>
        rw [hnode] at hq
        exact hq
    · exact hq

theorem tablesAt_prepare {d : Disk} (hd : d.Plain) (l : Location) (q : Place) :
    (d.prepare l).2.tablesAt q = d.tablesAt q := by
  refine (prepare_induction (P := fun d' ↦ d'.Plain ∧ d'.tablesAt q = d.tablesAt q) ?_
    ⟨hd, rfl⟩ l).2
  rintro d' p hp ⟨hd', h⟩
  refine ⟨plain_put hd' p _, ?_⟩
  by_cases hq : q = p
  · rw [← h, hq, tablesAt, tablesAt, node?_put, hp]
  · rw [tablesAt_put_of_ne hd' hq, h]

/-- A way along directories is found as it is. -/
theorem descend_again {d d' d₂ : Disk} (hd : d.Plain) {made : Bool} {p : Place}
    {names : List String} (h : d.descend made p names = (.ok (), d'))
    (hdir : ∀ q, d'.node? q = some .directory → d₂.node? q = some .directory) (made' : Bool) :
    d₂.descend made' p names = (.ok (), d₂) := by
  induction names generalizing d made p with
  | nil => rfl
  | cons name names ih =>
    rw [descend_cons] at h ⊢
    split
    · rename_i hstay
      rw [if_pos hstay] at h
      exact ih hd h
    · rename_i hstay
      rw [if_neg hstay] at h
      split
      · rename_i hup
        rw [if_pos hup] at h
        exact ih hd h
      · rename_i hup
        rw [if_neg hup] at h
        split
        · rename_i hlong
          rw [if_pos hlong] at h
          cases h
        · rename_i hlong
          rw [if_neg hlong] at h
          have hreached {d₁ : Disk} (hd₁ : d₁.Plain) {made₁ : Bool}
              (hnode : d₁.node? (p ++ [name]) = some .directory)
              (h₁ : d₁.descend made₁ (p ++ [name]) names = (.ok (), d')) :
              d₂.node? (p ++ [name]) = some .directory := by
            have hkept := node?_descend hd₁ hnode made₁ (p ++ [name]) names
            rw [h₁] at hkept
            exact hdir _ hkept
          split at h
          · rename_i hnode
            simp only [hreached hd hnode h]
            exact ih hd h
          · cases h
          · have hput := plain_put hd (p ++ [name]) .directory
            simp only [hreached hput (node?_put d _ _) h]
            exact ih hput h

/-- A directory that has been made ready is found so, wherever all directories still are. -/
theorem prepare_again {d d' d₂ : Disk} (hd : d.Plain) {l : Location}
    (h : d.prepare l = (.ok (), d')) (hhome : d₂.home = d.home)
    (hdir : ∀ q, d'.node? q = some .directory → d₂.node? q = some .directory) :
    d₂.prepare l = (.ok (), d₂) := by
  cases l with
  | memory => rfl
  | file path =>
    simp only [prepare] at h ⊢
    split at h
    · rfl
    · rename_i parent _
      have horigin : d₂.origin parent = d.origin parent := by rw [origin, origin, hhome]
      simp only [makeDirectory, horigin] at h ⊢
      split at h
      · cases h
      · split at h
        · cases h
        · rename_i hname hlong
          cases hr : d.descend false (d.origin parent) (Text.split '/' parent) with | mk r d₁ =>
          rw [hr] at h
          cases r with
          | error f => cases h
          | ok _ =>
            cases h
            rw [if_neg hname, if_neg hlong, descend_again hd hr hdir false]
            rfl

end Disk

end TokenMint.Store
