import TokenMint.Proofs.Text.Pieces

/-! # Words

A list of words is written as one text with a blank between each two, and read back by cutting at
the blanks.  This gives the list back if its members are words: there is something to each, and no
blank in it.  Other members are lost or fall apart, and nothing in the text tells so. -/

namespace TokenMint.Text

/-- The words between the blanks. -/
def words (s : String) : List String := (split ' ' s).filter (· ≠ "")

/-- Whether a text can stand as a word among others. -/
def IsWord (s : String) : Prop := s ≠ "" ∧ ' ' ∉ s.toList

instance (s : String) : Decidable (IsWord s) := inferInstanceAs (Decidable (_ ∧ _))

theorem isWord_of_mem_words {s w : String} (h : w ∈ words s) : IsWord w := by
  rw [words, List.mem_filter, split, List.mem_map] at h
  obtain ⟨⟨piece, hpiece, rfl⟩, hne⟩ := h
  refine ⟨by simpa using hne, ?_⟩
  rw [String.toList_ofList]
  exact Pieces.not_mem_of_mem_split hpiece

theorem words_join {l : List String} (h : ∀ w ∈ l, IsWord w) : words (join " " l) = l := by
  rw [words, split, toList_join]
  cases l with
  | nil => decide +kernel
  | cons w l =>
    have hblank : ∀ piece ∈ (w :: l).map String.toList, ' ' ∉ piece := by
      intro piece hpiece
      obtain ⟨v, hv, rfl⟩ := List.mem_map.mp hpiece
      exact (h v hv).2
    rw [show " ".toList = [' '] from rfl, Pieces.split_intercalate hblank (by simp), List.map_map,
      List.filter_eq_self.mpr]
    · simp
    · intro v hv
      obtain ⟨u, hu, rfl⟩ := List.mem_map.mp hv
      simpa using (h u hu).1

/-- Words are read back from the text that they make, and nothing but words is. -/
theorem words_join_iff {l : List String} :
    words (join " " l) = l ↔ ∀ w ∈ l, IsWord w := by
  constructor
  · intro h w hw
    rw [← h] at hw
    exact isWord_of_mem_words hw
  · exact words_join

/-- A text with no blank at either end. -/
def Unpadded (s : String) : Prop := s.toList.head? ≠ some ' ' ∧ s.toList.getLast? ≠ some ' '

instance (s : String) : Decidable (Unpadded s) := inferInstanceAs (Decidable (_ ∧ _))

theorem IsWord.unpadded {w : String} (h : IsWord w) : Unpadded w :=
  ⟨fun hhead ↦ h.2 (List.mem_of_head? hhead), fun hlast ↦ h.2 (List.mem_of_getLast? hlast)⟩

theorem join_ne_empty {l : List String} (h : ∀ w ∈ l, IsWord w) (hne : l ≠ []) :
    join " " l ≠ "" := by
  intro hempty
  refine hne ?_
  rw [← words_join h, hempty]
  decide +kernel

/-- Each end of a text of words is the end of a word. -/
theorem unpadded_join {l : List String} (h : ∀ w ∈ l, IsWord w) : Unpadded (join " " l) := by
  fun_induction join " " l with
  | case1 => decide
  | case2 w => exact (h w (by simp)).unpadded
  | case3 w v l ih =>
    obtain ⟨hw, hrest⟩ := List.forall_mem_cons.mp h
    have hfirst : w.toList ≠ [] := by simpa using hw.1
    have hlast : (join " " (v :: l)).toList ≠ [] := by simpa using join_ne_empty hrest (by simp)
    constructor
    · rw [String.append_assoc, String.toList_append, List.head?_append_of_ne_nil _ hfirst]
      exact hw.unpadded.1
    · rw [String.toList_append, List.getLast?_append_of_ne_nil _ hlast]
      exact (ih hrest).2

end TokenMint.Text
