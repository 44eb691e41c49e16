/-! # Cutting sequences

Cutting a sequence at the first occurrence of a separator, at all of them, or after a given start.
The functions work on lists, of characters or of bytes, and those for texts are stated on top. -/

namespace TokenMint

namespace Pieces

theorem length_tail_dropWhile_lt {α : Type} {p : α → Bool} {l r : List α} {a : α}
    (h : l.dropWhile p = a :: r) : r.length < l.length := by
  have := (l.dropWhile_suffix p).length_le
  simp only [h, List.length_cons] at this
  omega

variable {α : Type} [DecidableEq α]

/-- What comes before the first `sep`, and what comes after it if there is one. -/
def cut (sep : α) (l : List α) : List α × Option (List α) :=
  (l.takeWhile (· ≠ sep), (l.dropWhile (· ≠ sep)).tail?)

/-- The pieces between the separators: one more than there are separators. -/
def split (sep : α) (l : List α) : List (List α) :=
  match h : l.dropWhile (· ≠ sep) with
  | [] => [l]
  | _ :: r =>
    have := length_tail_dropWhile_lt h
    l.takeWhile (· ≠ sep) :: split sep r
termination_by l.length

/-- What remains once `start` has been taken off the front as often as it occurs there. -/
def afterAll (start l : List α) : List α :=
  if h : start ≠ [] ∧ start <+: l then
    have := List.length_pos_iff.2 h.1
    have := h.2.length_le
    afterAll start (l.drop start.length)
  else l
termination_by l.length
decreasing_by
  rw [List.length_drop]
  omega

/-- Whether `part` occurs in one stretch. -/
def contains (part : List α) : List α → Bool
  | [] => part.isEmpty
  | a :: l => part.isPrefixOf (a :: l) || contains part l

@[simp] theorem cut_nil (sep : α) : cut sep [] = ([], none) := rfl

theorem cut_cons (sep a : α) (l : List α) :
    cut sep (a :: l) = if a = sep then ([], some l) else (a :: (cut sep l).1, (cut sep l).2) := by
  by_cases h : a = sep <;> simp [cut, h]

theorem cut_append {sep : α} {l r : List α} (h : sep ∉ l) :
    cut sep (l ++ sep :: r) = (l, some r) := by
  induction l with
  | nil => simp [cut_cons]
  | cons a l ih =>
    obtain ⟨ha, hl⟩ : sep ≠ a ∧ sep ∉ l := by simpa using h
    rw [List.cons_append, cut_cons, if_neg (Ne.symm ha), ih hl]

end Pieces

namespace Text

/-- The rest of `s` after `start`, when `s` begins so. -/
def after? (start s : String) : Option String :=
  (start.toList.isPrefixOf? s.toList).map .ofList

/-- What remains of `s` once `start` has been taken off its front as often as it occurs there. -/
def afterAll (start s : String) : String := .ofList (Pieces.afterAll start.toList s.toList)

/-- What comes before the first `c`, and what comes after it if there is one. -/
def cut (c : Char) (s : String) : String × Option String :=
  let (a, b) := Pieces.cut c s.toList
  (.ofList a, b.map .ofList)

/-- The pieces between the occurrences of `c`. -/
def split (c : Char) (s : String) : List String := (Pieces.split c s.toList).map .ofList

/-- Whether `part` occurs in `s`. -/
def contains (part s : String) : Bool := Pieces.contains part.toList s.toList

/-- Texts in a row with `mid` between each two. -/
def join (mid : String) : List String → String
  | [] => ""
  | [s] => s
  | s :: t :: r => s ++ mid ++ join mid (t :: r)

/-- The text with its ASCII capitals made small. -/
def lower (s : String) : String := .ofList (s.toList.map Char.toLower)

end Text

end TokenMint
