import TokenMint.Log.Settings
import TokenMint.Proofs.Text.Pieces

/-! # Which texts are directives

A directive has a target, or is confined to spans or fields, or is a bare level.  Behind the target
of the server a bare level can stand, but no list of several directives can. -/

namespace TokenMint

/-! ## Blanks at the end -/

namespace Text

/-- A character that is not blank stays with all that comes before it. -/
theorem cutEnd_append_cons {c : Char} (h : ¬ isBlank c) (cs rest : List Char) :
    cutEnd (cs ++ c :: rest) = (cs ++ c :: (cutEnd rest).1, (cutEnd rest).2) := by
  have hreverse : (cs ++ c :: rest).reverse = rest.reverse ++ c :: cs.reverse := by simp
  unfold cutEnd
  rw [hreverse, Pieces.dropWhile_append_cons h, Pieces.takeWhile_append_cons h]
  simp

theorem ofList_cutEnd (s : String) :
    String.ofList (cutEnd s.toList).1 ++ .ofList (cutEnd s.toList).2 = s := by
  rw [← String.ofList_append, cutEnd_append, String.ofList_toList]

theorem isBlank_of_mem_cutEnd {c : Char} {cs : List Char} (h : c ∈ (cutEnd cs).2) : isBlank c :=
  List.mem_takeWhile_imp (List.mem_reverse.mp h)

theorem cutEnd_of_blank {cs : List Char} (h : ∀ c ∈ cs, isBlank c) : cutEnd cs = ([], cs) := by
  have hreverse : ∀ c ∈ cs.reverse, isBlank c := fun c hc ↦ h c (List.mem_reverse.mp hc)
  rw [cutEnd, List.dropWhile_eq_nil_iff.mpr hreverse, List.takeWhile_eq_self_iff.mpr hreverse]
  simp

end Text

namespace Log.Directive

variable {d d' : Directive} {s : String} {t : Threshold}

/-! ## Cutting at stops -/

section Cutting

variable {stops cs rest : List Char} {c : Char} {word : String}

theorem upTo_eq_nil : upTo stops cs = (word, []) ↔ word = .ofList cs ∧ ∀ c ∈ cs, c ∉ stops := by
  have hnil : cs.dropWhile (· ∉ stops) = [] ↔ ∀ c ∈ cs, c ∉ stops := by simp
  rw [upTo, Prod.mk.injEq, hnil, and_congr_left_iff]
  intro hall
  rw [List.takeWhile_eq_self_iff.mpr (by simpa using hall), eq_comm]

theorem upTo_eq_cons :
    upTo stops cs = (word, c :: rest) ↔
      ∃ before, cs = before ++ c :: rest ∧ word = .ofList before ∧
        (∀ b ∈ before, b ∉ stops) ∧ c ∈ stops := by
  constructor
  · intro h
    obtain ⟨rfl, hdrop⟩ := Prod.mk.inj h
    refine ⟨_, ?_, rfl, fun b hb ↦ by simpa using List.mem_takeWhile_imp hb, ?_⟩
    · rw [← hdrop, List.takeWhile_append_dropWhile]
    · have hhead := List.head?_dropWhile_not (· ∉ stops) cs
      rw [hdrop] at hhead
      simpa using hhead
  · rintro ⟨before, rfl, rfl, hbefore, hc⟩
    have hstop : ¬ decide (c ∉ stops) = true := by simpa using hc
    have hall : ∀ b ∈ before, decide (b ∉ stops) = true := by simpa using hbefore
    rw [upTo, Pieces.takeWhile_append_cons (p := fun c ↦ decide (c ∉ stops)) hstop,
      Pieces.dropWhile_append_cons (p := fun c ↦ decide (c ∉ stops)) hstop,
      List.takeWhile_eq_self_iff.mpr hall, List.dropWhile_eq_nil_iff.mpr hall, List.nil_append]

/-- What stands before a stop is something, if a directive can begin with its first character. -/
theorem ne_empty_of_upTo {after : List Char} {stop : Char} (hc : canBegin c)
    (h : upTo ['=', '['] (c :: rest) = (word, stop :: after)) : word ≠ "" := by
  obtain ⟨_ | ⟨b, before⟩, hbefore, rfl, -, hstop⟩ := upTo_eq_cons.mp h
  · obtain ⟨rfl, -⟩ := List.cons.inj hbefore
    simp only [List.mem_cons, List.not_mem_nil, or_false] at hstop
    rcases hstop with rfl | rfl
    · exact absurd hc (by decide)
    · exact absurd hc (by decide)
  · simp

end Cutting

/-! ## What a directive is about -/

/-- A directive is about all events, whatever their targets and fields. -/
def isGeneral (d : Directive) : Bool := d.target.isNone && d.fields.isEmpty

/-- The threshold of a directive that is a bare level. -/
def level? (d : Directive) : Option Threshold :=
  if d = bare d.threshold then some d.threshold else none

theorem level?_eq_some : d.level? = some t ↔ d = bare t := by
  unfold level?
  constructor
  · intro h
    split at h
    · rename_i hbare
      cases h
      exact hbare
    · cases h
  · rintro rfl
    exact if_pos rfl

section Reading

variable {blanks cs : List Char}

theorem readRest_eq_some (h : readRest d blanks cs = some d') :
    d'.target = d.target ∧ d'.span = d.span ∧ d'.fields = d.fields := by
  unfold readRest at h
  split at h
  · cases h
    exact ⟨rfl, rfl, rfl⟩
  · obtain ⟨t, -, ht⟩ := Option.bind_eq_some_iff.mp h
    cases ht
    exact ⟨rfl, rfl, rfl⟩
  · cases h

/-- Brackets confine a directive to spans or fields. -/
theorem readSpan_eq_some (h : readSpan d blanks cs = some d') :
    d'.target = d.target ∧ (d'.span.isSome ∨ d'.fields ≠ []) := by
  unfold readSpan at h
  split at h
  · obtain ⟨htarget, hspan, -⟩ := readRest_eq_some h
    exact ⟨htarget, .inl (by rw [hspan]; rfl)⟩
  · split at h
    · rename_i fields _ _
      obtain ⟨patterns, hpatterns, hrest⟩ := Option.bind_eq_some_iff.mp h
      obtain ⟨htarget, -, hfields⟩ := readRest_eq_some hrest
      refine ⟨htarget, .inr ?_⟩
      rw [hfields]
      rintro rfl
      obtain ⟨piece, pieces, hsplit⟩ := List.exists_cons_of_ne_nil (Text.split_ne_nil ',' fields)
      rw [hsplit, List.mapM_cons] at hpatterns
      obtain ⟨pattern, -, hpatterns⟩ := Option.bind_eq_some_iff.mp hpatterns
      obtain ⟨patterns, -, hpatterns⟩ := Option.bind_eq_some_iff.mp hpatterns
      cases hpatterns
    · cases h
  · cases h

end Reading

/-- A directive that is read has a target, or is confined to spans or fields, or is a bare level. -/
theorem parse?_eq_some (h : parse? s = some d) :
    (∃ t, Threshold.ofText? s = some t ∧ d = bare t) ∨
      d.target = none ∧ (d.span.isSome ∨ d.fields ≠ []) ∨ ∃ w, w ≠ "" ∧ d.target = some w := by
  have hs := Text.ofList_cutEnd s
  unfold parse? at h
  generalize Text.cutEnd s.toList = parts at h hs
  obtain ⟨cs, blanks⟩ := parts
  dsimp only at h hs
  split at h
  · cases h
  · exact .inr (.inl (readSpan_eq_some h))
  · rename_i c rest _
    split at h
    · cases h
    · rename_i hbegin
      rw [Decidable.not_not] at hbegin
      split at h
      · -- without a stop, the whole text is a level or a target
        rename_i word hcut
        obtain ⟨rfl, -⟩ := upTo_eq_nil.mp hcut
        have hne : s ≠ "" := by simp [← hs]
        rw [hs] at h
        split at h
        · rename_i t ht
          cases h
          exact .inl ⟨t, ht, rfl⟩
        · cases h
          exact .inr (.inr ⟨s, hne, rfl⟩)
      · rename_i word after hcut
        obtain ⟨t, -, ht⟩ := Option.bind_eq_some_iff.mp h
        cases ht
        exact .inr (.inr ⟨word, ne_empty_of_upTo hbegin hcut, rfl⟩)
      · rename_i word stop after _ hcut
        exact .inr (.inr ⟨word, ne_empty_of_upTo hbegin hcut, (readSpan_eq_some h).1⟩)

/-- No directive asks for a target that begins with nothing. -/
theorem target_ne_of_parse? (h : parse? s = some d) : d.target ≠ some "" := by
  rcases parse?_eq_some h with ⟨t, -, rfl⟩ | ⟨hnone, -⟩ | ⟨w, hw, htarget⟩
  · exact nofun
  · rw [hnone]
    exact nofun
  · rw [htarget]
    exact fun hempty ↦ hw (Option.some.inj hempty)

/-- A text that is read as a bare level is a level. -/
theorem ofText?_of_parse? (h : parse? s = some (bare t)) : Threshold.ofText? s = some t := by
  rcases parse?_eq_some h with ⟨t', ht, heq⟩ | ⟨-, hspan | hfields⟩ | ⟨w, -, htarget⟩
  · cases heq
    exact ht
  · cases hspan
  · exact absurd rfl hfields
  · cases htarget

/-- Blanks are no directive. -/
theorem parse?_of_blank {blanks : List Char} (h : ∀ c ∈ blanks, Text.isBlank c) :
    parse? (.ofList blanks) = none := by
  rw [parse?, String.toList_ofList, Text.cutEnd_of_blank h]

/-! ## Behind a target -/

/-- The threshold that a text stands for behind a target. -/
def behind? (s : String) : Option Threshold :=
  let (cs, blanks) := Text.cutEnd s.toList
  readThreshold blanks cs

/-- What stands behind a target and an equals sign is read as the threshold for this target. -/
theorem parse?_targeted {target : String} {c : Char} {cs : List Char}
    (htarget : target.toList = c :: cs) (hbegin : canBegin c)
    (hstops : ∀ b ∈ target.toList, b ∉ ['=', '[']) (s : String) :
    parse? (target ++ "=" ++ s) =
      (behind? s).map fun threshold ↦ { target := some target, threshold } := by
  have hlist : (target ++ "=" ++ s).toList = target.toList ++ '=' :: s.toList := by simp
  have hcut : upTo ['=', '['] (target.toList ++ '=' :: (Text.cutEnd s.toList).1) =
      (target, '=' :: (Text.cutEnd s.toList).1) :=
    upTo_eq_cons.mpr ⟨target.toList, rfl, String.ofList_toList.symm, hstops, by decide⟩
  have hbracket : c ≠ '[' := by
    rintro rfl
    exact absurd hbegin (by decide)
  rw [parse?, hlist, Text.cutEnd_append_cons (by decide)]
  rw [htarget, List.cons_append] at hcut ⊢
  dsimp only
  split
  · rename_i hnil
    cases hnil
  · rename_i hopen
    exact absurd (List.cons.inj hopen).1 hbracket
  · rename_i hcons
    cases hcons
    rw [if_neg (not_not_intro hbegin), hcut]
    simp only [Option.map_eq_bind]
    rfl

/-- A level can stand behind a target, if no comma comes with it. -/
theorem behind?_of_level (h : Threshold.ofText? s = some t) (hcomma : ',' ∉ s.toList) :
    behind? s = some t := by
  have hparts := Text.cutEnd_append s.toList
  have hs := Text.ofList_cutEnd s
  unfold behind?
  generalize Text.cutEnd s.toList = parts at hparts hs
  obtain ⟨cs, blanks⟩ := parts
  dsimp only at hparts hs ⊢
  have hcs : ∀ c ∈ cs, c ∉ [','] := by
    rintro c hc hstop
    obtain rfl := List.mem_singleton.mp hstop
    exact hcomma (hparts ▸ List.mem_append_left _ hc)
  have hne : s ≠ "" := by
    rintro rfl
    have hempty : Threshold.ofText? "" = none := by decide +kernel
    cases hempty.symm.trans h
  rw [readThreshold, upTo_eq_nil.mpr ⟨rfl, hcs⟩]
  dsimp only
  rw [hs, if_neg hne, h]

/-- A text with a comma can stand behind a target only if nothing but blanks comes after the comma,
and blanks are no directive. -/
theorem exists_blank_of_behind? (h : (behind? s).isSome) (hcomma : ',' ∈ s.toList) :
    ∃ piece ∈ Text.split ',' s, parse? piece = none := by
  have hparts := Text.cutEnd_append s.toList
  have hblanks : ∀ c ∈ (Text.cutEnd s.toList).2, Text.isBlank c :=
    fun _ hc ↦ Text.isBlank_of_mem_cutEnd hc
  unfold behind? at h
  generalize Text.cutEnd s.toList = parts at h hparts hblanks
  obtain ⟨cs, blanks⟩ := parts
  dsimp only at h hparts hblanks
  have hno : ',' ∉ blanks := fun hmem ↦ absurd (hblanks _ hmem) (by decide)
  unfold readThreshold at h
  dsimp only at h
  split at h
  · rename_i hcut
    obtain ⟨-, hcs⟩ := upTo_eq_nil.mp hcut
    rw [← hparts, List.mem_append] at hcomma
    rcases hcomma with hmem | hmem
    · exact absurd (List.mem_singleton_self _) (hcs _ hmem)
    · exact absurd hmem hno
  · rename_i hcut
    obtain ⟨before, rfl, -, hbefore, hstop⟩ := upTo_eq_cons.mp hcut
    obtain rfl := List.mem_singleton.mp hstop
    have hno' : ',' ∉ before := fun hmem ↦ hbefore _ hmem (List.mem_singleton_self _)
    have hlist : s.toList = before ++ ',' :: blanks := by simp [← hparts]
    refine ⟨.ofList blanks, ?_, parse?_of_blank hblanks⟩
    rw [Text.split, hlist, Pieces.split_append_cons hno', Pieces.split_of_not_mem hno]
    simp
  · cases h

end Log.Directive
end TokenMint
