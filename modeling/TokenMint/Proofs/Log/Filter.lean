import Mathlib.Data.List.Induction
import TokenMint.Proofs.Log.Directive

/-! # Which directive decides

Directives that are not about an event can be added without changing what decides on it.  A bare
level is about every event, but comes after all other directives: added to a filter, it decides
where nothing else did, and takes the place of a bare level that was there before. -/

namespace TokenMint.Log

/-! ## Directives about all events -/

namespace Directive

variable {d e : Directive} {t : Threshold} {target : String} {fields : List String}

theorem concerns_eq_of_sameScope (h : d.sameScope e) (target : String) (fields : List String) :
    d.concerns target fields = e.concerns target fields := by
  simp only [sameScope, Bool.and_eq_true, decide_eq_true_iff] at h
  rw [concerns, concerns, h.1, h.2]

theorem sameScope_bare : (bare t).sameScope e = e.isGeneral := by
  rw [Bool.eq_iff_iff]
  simp [sameScope, isGeneral, bare, fieldNames, @eq_comm _ none, @eq_comm _ []]

/-- Nothing is less specific than a bare level. -/
theorem isMoreSpecific_bare (t : Threshold) (e : Directive) :
    (bare t).isMoreSpecific e = false := by
  have hreach : (bare t).reach = 0 := rfl
  unfold isMoreSpecific
  split
  · simp [hreach]
  · rename_i hsame
    split
    · simp [bare]
    · split
      · rename_i htarget
        refine absurd ?_ htarget
        cases htarget' : e.target with
        | none => rfl
        | some w => simp [bare, reach, htarget'] at hsame
      · simp [bare, fieldNames]

theorem concerns_of_isGeneral (h : d.isGeneral) (target : String) (fields : List String) :
    d.concerns target fields := by
  simp only [isGeneral, Bool.and_eq_true, Option.isNone_iff_eq_none, List.isEmpty_iff] at h
  simp [concerns, fieldNames, h.1, h.2]

/-- What is about an event without a target and fields is about all events. -/
theorem isGeneral_of_concerns (hd : d.target ≠ some "") (h : d.concerns "" []) : d.isGeneral := by
  obtain ⟨target, span, patterns, threshold⟩ := d
  cases target <;> cases patterns <;> simp_all [concerns, isGeneral, fieldNames]

/-- A directive about all events is a bare level, if it is not confined to spans. -/
theorem eq_bare_of_isGeneral (h : d.isGeneral) (hevents : d.isForEvents) :
    d = bare d.threshold := by
  obtain ⟨target, span, patterns, threshold⟩ := d
  simp_all [isGeneral, isForEvents, bare]

end Directive

namespace Filter

open Directive (bare)

variable {f : Filter} {d e : Directive} {ds : List Directive} {t : Threshold} {target : String}
  {fields : List String}

/-! ## Adding a directive -/

theorem find?_insert_of_not_concerns (h : ¬ d.concerns target fields) (es : List Directive) :
    (insert d es).find? (·.concerns target fields) = es.find? (·.concerns target fields) := by
  induction es with
  | nil => simp [h]
  | cons e es ih =>
    unfold insert
    split
    · rename_i hscope
      have he : ¬ e.concerns target fields := d.concerns_eq_of_sameScope hscope target fields ▸ h
      simp [h, he]
    · split
      · simp [h]
      · rw [List.find?_cons, List.find?_cons, ih]

/-- A directive that is not about an event does not take part in its decision. -/
theorem decisive?_add_of_not_concerns (h : ¬ d.concerns target fields) :
    (f.add d).decisive? target fields = f.decisive? target fields := by
  unfold add
  split
  · exact find?_insert_of_not_concerns h f.directives
  · rfl

/-- What decides once a bare level has been added: still the directive that decided before, unless
this was about all events. -/
def orLevel (t : Threshold) : Option Directive → Directive
  | none => bare t
  | some d => if d.isGeneral then bare t else d

theorem find?_insert_bare (t : Threshold) (target : String) (fields : List String)
    (es : List Directive) : (insert (bare t) es).find? (·.concerns target fields) =
      some (orLevel t (es.find? (·.concerns target fields))) := by
  have hbare : (bare t).concerns target fields := Directive.concerns_of_isGeneral rfl target fields
  induction es with
  | nil => simp [hbare, orLevel]
  | cons e es ih =>
    -- the bare level is put in for `e`, or somewhere behind it
    rw [insert, Directive.sameScope_bare, Directive.isMoreSpecific_bare]
    split
    · rename_i hgeneral
      simp [hbare, Directive.concerns_of_isGeneral hgeneral target fields, orLevel, hgeneral]
    · rename_i hgeneral
      rw [if_neg Bool.false_ne_true, List.find?_cons, List.find?_cons, ih]
      split
      · rw [orLevel, if_neg hgeneral]
      · rfl

theorem decisive?_add_bare (f : Filter) (t : Threshold) (target : String) (fields : List String) :
    (f.add (bare t)).decisive? target fields = some (orLevel t (f.decisive? target fields)) :=
  find?_insert_bare t target fields f.directives

/-! ## Adding one directive after another -/

theorem mem_foldl_add (h : e ∈ (ds.foldl add f).directives) :
    e ∈ f.directives ∨ e ∈ ds ∧ e.isForEvents := by
  induction ds generalizing f with
  | nil => exact .inl h
  | cons d ds ih =>
    rcases ih h with hadd | ⟨hmem, hevents⟩
    · unfold add at hadd
      split at hadd
      · rename_i hd
        rcases mem_insert hadd with rfl | hold
        · exact .inr ⟨List.mem_cons_self, hd⟩
        · exact .inl hold
      · exact .inl hadd
    · exact .inr ⟨List.mem_cons_of_mem _ hmem, hevents⟩

/-- Directives that are not about an event do not take part in its decision. -/
theorem decisive?_foldl_add_of_not_concerns (h : ∀ d ∈ ds, ¬ d.concerns target fields) :
    (ds.foldl add f).decisive? target fields = f.decisive? target fields := by
  induction ds generalizing f with
  | nil => rfl
  | cons d ds ih =>
    rw [List.foldl_cons, ih fun e he ↦ h e (List.mem_cons_of_mem _ he),
      decisive?_add_of_not_concerns (h d List.mem_cons_self)]

/-- What is about an event without a target and fields decides on it, so it is about all events. -/
theorem isGeneral_of_decisive? (hf : ∀ e ∈ f.directives, e.target ≠ some "")
    (h : f.decisive? "" [] = some d) : d.isGeneral := by
  obtain ⟨hmem, hconcerns⟩ := mem_of_decisive? h
  exact Directive.isGeneral_of_concerns (hf d hmem) hconcerns

/-- A directive about all events that decides on any event decides on the one without a target and
fields. -/
theorem decisive?_of_isGeneral (hf : ∀ e ∈ f.directives, e.target ≠ some "")
    (h : f.decisive? target fields = some d) (hd : d.isGeneral) : f.decisive? "" [] = some d := by
  obtain ⟨-, before, after, hlist, hbefore⟩ := List.find?_eq_some_iff_append.mp h
  refine List.find?_eq_some_iff_append.mpr
    ⟨Directive.concerns_of_isGeneral hd "" [], before, after, hlist, fun e he ↦ ?_⟩
  have hmem : e ∈ f.directives := hlist ▸ List.mem_append_left _ he
  have hno := hbefore e he
  rw [Bool.not_eq_true'] at hno ⊢
  refine Bool.eq_false_iff.mpr fun hconcerns ↦ ?_
  have hgeneral := Directive.isGeneral_of_concerns (hf e hmem) hconcerns
  exact absurd (Directive.concerns_of_isGeneral hgeneral target fields) (by simp [hno])

/-- What is no bare level does not decide on an event without a target and fields. -/
theorem decisive?_add_of_level?_eq_none (hd : d.target ≠ some "") (h : d.level? = none) :
    (f.add d).decisive? "" [] = f.decisive? "" [] := by
  by_cases hevents : d.isForEvents
  · refine decisive?_add_of_not_concerns fun hconcerns ↦ ?_
    have hgeneral := Directive.isGeneral_of_concerns hd hconcerns
    have hbare := Directive.eq_bare_of_isGeneral hgeneral hevents
    cases h.symm.trans (Directive.level?_eq_some.mpr hbare)
  · rw [add, if_neg hevents]

/-- Of several bare levels the last one counts. -/
theorem decisive?_foldl_add (hds : ∀ d ∈ ds, d.target ≠ some "") :
    (ds.foldl add {}).decisive? "" [] = (ds.filterMap (·.level?)).getLast?.map bare := by
  induction ds using List.reverseRecOn with
  | nil => rfl
  | append_singleton ds d ih =>
    have hds' : ∀ e ∈ ds, e.target ≠ some "" := fun e he ↦ hds e (List.mem_append_left _ he)
    have htargets : ∀ e ∈ (ds.foldl add {}).directives, e.target ≠ some "" := by
      intro e he
      rcases mem_foldl_add he with hnil | ⟨hmem, -⟩
      · cases hnil
      · exact hds' e hmem
    rw [List.foldl_append, List.foldl_cons, List.foldl_nil, List.filterMap_append]
    cases hlevel : d.level? with
    | some t =>
      obtain rfl := Directive.level?_eq_some.mp hlevel
      rw [decisive?_add_bare]
      cases hdecisive : (ds.foldl add {}).decisive? "" [] with
      | none => simp [orLevel, hlevel]
      | some e => simp [orLevel, isGeneral_of_decisive? htargets hdecisive, hlevel]
    | none =>
      rw [decisive?_add_of_level?_eq_none (hds d (by simp)) hlevel, ih hds']
      simp [hlevel]

end Filter

end TokenMint.Log
