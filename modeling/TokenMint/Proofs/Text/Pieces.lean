import Mathlib.Data.List.Basic
import Mathlib.Data.List.TakeWhile
import TokenMint.Text.Pieces

/-! # Cutting and putting together again

What is cut up by `Pieces` can be put together again, and the other way round.  A start that is
taken off the front as often as it occurs has stood there some number of times. -/

namespace TokenMint

namespace Pieces

variable {α : Type}

/-! ## What a test stops at -/

theorem dropWhile_append_cons {p : α → Bool} {a : α} (h : ¬ p a) (l r : List α) :
    (l ++ a :: r).dropWhile p = l.dropWhile p ++ a :: r := by
  induction l with
  | nil => simp [h]
  | cons b l ih => by_cases hb : p b <;> simp [hb, ih]

theorem takeWhile_append_cons {p : α → Bool} {a : α} (h : ¬ p a) (l r : List α) :
    (l ++ a :: r).takeWhile p = l.takeWhile p := by
  induction l with
  | nil => simp [h]
  | cons b l ih => by_cases hb : p b <;> simp [hb, ih]

variable [DecidableEq α] {sep : α} {start : List α}

/-! ## Cutting once -/

/-- What stands before the first separator does not take part in the cut. -/
theorem cut_append_left (h : sep ∉ start) (l : List α) :
    cut sep (start ++ l) = (start ++ (cut sep l).1, (cut sep l).2) := by
  induction start with
  | nil => rfl
  | cons a start ih =>
    obtain ⟨ha, hstart⟩ : sep ≠ a ∧ sep ∉ start := by simpa using h
    rw [List.cons_append, cut_cons, if_neg (Ne.symm ha), ih hstart]
    rfl

theorem cut_fst_prefix_self (sep : α) (l : List α) : (cut sep l).1 <+: l := List.takeWhile_prefix _

/-- A start without the separator stands before the first separator or not at all. -/
theorem prefix_cut_iff (h : sep ∉ start) {l : List α} :
    start <+: (cut sep l).1 ↔ start <+: l := by
  refine ⟨fun hl ↦ hl.trans (cut_fst_prefix_self sep l), ?_⟩
  rintro ⟨r, rfl⟩
  rw [cut_append_left h]
  exact List.prefix_append _ _

/-! ## Taking starts off -/

theorem afterAll_of_not_prefix {l : List α} (h : ¬ start <+: l) : afterAll start l = l := by
  rw [afterAll, dif_neg (by simp [h])]

theorem afterAll_append (h : start ≠ []) (l : List α) :
    afterAll start (start ++ l) = afterAll start l := by
  rw [afterAll, dif_pos ⟨h, List.prefix_append _ _⟩, List.drop_left]

theorem afterAll_replicate (h : start ≠ []) (n : Nat) (l : List α) :
    afterAll start ((List.replicate n start).flatten ++ l) = afterAll start l := by
  induction n with
  | zero => rfl
  | succ n ih =>
    rw [List.replicate_succ, List.flatten_cons, List.append_assoc, afterAll_append h, ih]

/-- What remains stands behind some number of starts, and does not begin with another. -/
theorem afterAll_spec (h : start ≠ []) (l : List α) :
    (∃ n, l = (List.replicate n start).flatten ++ afterAll start l) ∧
      ¬ start <+: afterAll start l := by
  fun_induction afterAll start l with
  | case1 l hl _ _ ih =>
    obtain ⟨⟨n, hn⟩, hrest⟩ := ih
    obtain ⟨r, rfl⟩ := hl.2
    rw [List.drop_left] at hn hrest ⊢
    refine ⟨⟨n + 1, ?_⟩, hrest⟩
    rw [List.replicate_succ, List.flatten_cons, List.append_assoc, ← hn]
  | case2 l hl => exact ⟨⟨0, rfl⟩, fun hp ↦ hl ⟨h, hp⟩⟩

theorem afterAll_eq_iff (h : start ≠ []) {l r : List α} :
    afterAll start l = r ↔
      (∃ n, l = (List.replicate n start).flatten ++ r) ∧ ¬ start <+: r := by
  constructor
  · rintro rfl
    exact afterAll_spec h l
  · rintro ⟨⟨n, rfl⟩, hr⟩
    rw [afterAll_replicate h, afterAll_of_not_prefix hr]

/-- Starts without the separator come off before or after the cut. -/
theorem cut_afterAll (h : sep ∉ start) (l : List α) :
    cut sep (afterAll start l) = (afterAll start (cut sep l).1, (cut sep l).2) := by
  fun_induction afterAll start l with
  | case1 l hl _ _ ih =>
    obtain ⟨r, rfl⟩ := hl.2
    rw [List.drop_left] at ih ⊢
    rw [ih, cut_append_left h, afterAll_append hl.1]
  | case2 l hl =>
    rw [afterAll, dif_neg (by rwa [prefix_cut_iff h])]

/-! ## Cutting everywhere -/

theorem split_eq_splitOn (sep : α) (l : List α) : split sep l = l.splitOn sep := by
  fun_induction split sep l with
  | case1 l h =>
    refine (List.splitOn_eq_singleton fun hmem ↦ ?_).symm
    simpa using List.dropWhile_eq_nil_iff.mp h sep hmem
  | case2 l a r h _ ih =>
    have hsep : sep ∉ l.takeWhile (· ≠ sep) := fun hmem ↦ by
      simpa using List.mem_takeWhile_imp hmem
    have ha : a = sep := by
      have hhead := List.head?_dropWhile_not (· ≠ sep) l
      rw [h] at hhead
      simpa using hhead
    have hl : l = l.takeWhile (· ≠ sep) ++ sep :: r := by
      rw [← ha, ← h, ha, List.takeWhile_append_dropWhile]
    conv_rhs => rw [hl]
    rw [List.splitOn_append_cons_self_of_not_mem hsep, ih]

theorem split_ne_nil (sep : α) (l : List α) : split sep l ≠ [] := by
  unfold split
  split <;> simp

theorem split_of_not_mem {l : List α} (h : sep ∉ l) : split sep l = [l] := by
  rw [split_eq_splitOn, List.splitOn_eq_singleton h]

theorem split_append_cons {l : List α} (h : sep ∉ l) (r : List α) :
    split sep (l ++ sep :: r) = l :: split sep r := by
  rw [split_eq_splitOn, split_eq_splitOn, List.splitOn_append_cons_self_of_not_mem h]

theorem not_mem_of_mem_split {l piece : List α} (h : piece ∈ split sep l) :
    sep ∉ piece := by
  fun_induction split sep l with
  | case1 l hnil =>
    rw [List.mem_singleton] at h
    intro hmem
    simpa using List.dropWhile_eq_nil_iff.mp hnil sep (h ▸ hmem)
  | case2 l a r _ _ ih =>
    rcases List.mem_cons.mp h with rfl | h
    · intro hmem
      simpa using List.mem_takeWhile_imp hmem
    · exact ih h

/-- Pieces that are put together with the separator between each two come apart again. -/
theorem split_intercalate {l : List (List α)} (h : ∀ piece ∈ l, sep ∉ piece)
    (hne : l ≠ []) : split sep ([sep].intercalate l) = l := by
  rw [split_eq_splitOn, List.splitOn_intercalate sep h hne]

end Pieces

namespace Text

theorem toList_join_replicate (n : Nat) (s : String) :
    (String.join (List.replicate n s)).toList = (List.replicate n s.toList).flatten := by
  rw [String.toList_join, List.flatMap_def, List.map_replicate]

theorem afterAll_eq_iff {start s r : String} (h : start ≠ "") :
    afterAll start s = r ↔
      (∃ n, s = String.join (List.replicate n start) ++ r) ∧ ¬ start.toList <+: r.toList := by
  have hne : start.toList ≠ [] := by simpa using h
  rw [afterAll, ← String.toList_inj, String.toList_ofList, Pieces.afterAll_eq_iff hne]
  simp only [← String.toList_inj, String.toList_append, toList_join_replicate]

variable {c : Char} {start : String}

theorem cut_append_left (h : c ∉ start.toList) (s : String) :
    cut c (start ++ s) = (start ++ (cut c s).1, (cut c s).2) := by
  simp [cut, Pieces.cut_append_left h]

theorem cut_afterAll (h : c ∉ start.toList) (s : String) :
    cut c (afterAll start s) = (afterAll start (cut c s).1, (cut c s).2) := by
  simp [cut, afterAll, Pieces.cut_afterAll h]

theorem split_ne_nil (c : Char) (s : String) : split c s ≠ [] := by
  rw [split, ne_eq, List.map_eq_nil_iff]
  exact Pieces.split_ne_nil c s.toList

theorem split_of_not_mem {s : String} (h : c ∉ s.toList) : split c s = [s] := by
  rw [split, Pieces.split_of_not_mem h, List.map_singleton, String.ofList_toList]

theorem toList_join (mid : String) (l : List String) :
    (join mid l).toList = mid.toList.intercalate (l.map String.toList) := by
  fun_induction join mid l with
  | case1 => rfl
  | case2 s => simp
  | case3 s t r ih => simp [ih]

end Text

end TokenMint
