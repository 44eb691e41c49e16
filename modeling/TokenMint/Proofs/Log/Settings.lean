import TokenMint.Proofs.Log.Filter

/-! # What the operator asks for, and what is installed

To the operator's directives others are added, about libraries and about the server itself.  They
are about no other target, and a single level that the operator gives stays as it is for everything
else.  But what the operator gives is also put behind the target of the server, where several
directives cannot stand; then a bare level is added instead, which takes the place of the operator's
own. -/

namespace TokenMint.Log

open Directive (bare behind?)

/-- A target that belongs neither to the server nor to one of the libraries that are quietened. -/
def Unrelated (target : String) : Prop :=
  ∀ start ∈ ["hyper", "sqlx", "tower_http", Settings.serverTarget],
    ¬ start.toList <+: target.toList

instance (target : String) : Decidable (Unrelated target) :=
  inferInstanceAs (Decidable (∀ start ∈ _, _))

/-- A threshold is known by what it lets through. -/
theorem Threshold.eq_of_allows {t t' : Threshold} (h : ∀ l, t.allows l = t'.allows l) : t = t' := by
  cases t with
  | off =>
    cases t' with
    | off => rfl
    | upTo l' => exact absurd (h l') (by cases l' <;> decide)
  | upTo l =>
    cases t' with
    | off => exact absurd (h l) (by cases l <;> decide)
    | upTo l' =>
      have hl := h l
      have hl' := h l'
      revert hl hl'
      cases l <;> cases l' <;> decide

namespace Settings

variable {target : String} {fields : List String}

/-! ## The added directives -/

/-- The directives that quieten libraries. -/
def quieting : List Directive :=
  [{ target := some "hyper", threshold := .upTo .warn },
    { target := some "sqlx", threshold := .upTo .warn },
    { target := some "sqlx::query", threshold := .upTo .warn },
    { target := some "tower_http", threshold := .upTo .info }]

/-- The directive that is added for the server. -/
def serverDirective (s : Settings) : Directive :=
  (Directive.parse? (serverTarget ++ "=" ++ s.level)).getD (bare (.upTo .info))

theorem filter_eq (s : Settings) :
    s.filter = (quieting.foldl Filter.add (.ofText s.level)).add s.serverDirective := by
  have hquieting : ["hyper=warn", "sqlx=warn", "sqlx::query=warn", "tower_http=info"].map
      (fun d ↦ (Directive.parse? d).getD (bare (.upTo .info))) = quieting := by decide +kernel
  rw [← hquieting]
  rfl

theorem parse?_server (text : String) :
    Directive.parse? (serverTarget ++ "=" ++ text) =
      (behind? text).map fun threshold ↦
        { target := some serverTarget, threshold } := by
  have hserver : serverTarget.toList = 'o' :: "auth2_token_server".toList := by decide +kernel
  have hstops : serverTarget.toList.all (· ∉ ['=', '[']) = true := by decide +kernel
  exact Directive.parse?_targeted hserver (by decide) (by simpa using hstops) text

/-- What can stand behind a target sets the threshold for the server. -/
theorem serverDirective_target {s : Settings} (h : (behind? s.level).isSome) :
    s.serverDirective.target = some serverTarget := by
  obtain ⟨t, ht⟩ := Option.isSome_iff_exists.mp h
  rw [serverDirective, parse?_server, ht]
  rfl

/-- For what cannot, a bare level is added. -/
theorem serverDirective_bare {s : Settings} (h : ¬ (behind? s.level).isSome) :
    s.serverDirective = bare (.upTo .info) := by
  rw [serverDirective, parse?_server, Option.not_isSome_iff_eq_none.mp h]
  rfl

/-- A directive with a target is not about events whose target begins otherwise. -/
theorem not_concerns_of_target {d : Directive} {start : String} (hd : d.target = some start)
    (h : ¬ start.toList <+: target.toList) : ¬ d.concerns target fields := by
  simp [Directive.concerns, hd, h]

/-- The directives about libraries are about no unrelated event. -/
theorem not_concerns_of_quieting (h : Unrelated target) {d : Directive} (hd : d ∈ quieting) :
    ¬ d.concerns target fields := by
  obtain ⟨start, hstart, htarget⟩ :
      ∃ start ∈ ["hyper", "sqlx", "tower_http", serverTarget], ∃ t, d.target = some t ∧
        start.toList <+: t.toList := by
    revert d
    decide +kernel
  obtain ⟨t, htarget, hbegins⟩ := htarget
  exact not_concerns_of_target htarget fun ht ↦ h start hstart (hbegins.trans ht)

/-- What decides on an unrelated event. -/
theorem decisive?_filter (s : Settings) (h : Unrelated target) (fields : List String) :
    let own := (Filter.ofText s.level).decisive? target fields
    s.filter.decisive? target fields =
      if (behind? s.level).isSome then own else some (Filter.orLevel (.upTo .info) own) := by
  intro own
  have hquieting : (quieting.foldl Filter.add (.ofText s.level)).decisive? target fields = own :=
    Filter.decisive?_foldl_add_of_not_concerns fun d hd ↦ not_concerns_of_quieting h hd
  rw [filter_eq]
  split
  · rename_i hfollow
    rw [Filter.decisive?_add_of_not_concerns, hquieting]
    exact not_concerns_of_target (serverDirective_target hfollow) (h serverTarget (by simp))
  · rename_i hfollow
    rw [serverDirective_bare hfollow, Filter.decisive?_add_bare, hquieting]

/-! ## Lists with a bare level -/

/-- The bare level that counts in a list of directives, which is the last one. -/
def level? (text : String) : Option Threshold :=
  (((Text.split ',' text).filterMap Directive.parse?).filterMap (·.level?)).getLast?

section Lists

variable {text : String} {t : Threshold}

/-- In a list with a bare level this decides on everything that no other directive is about. -/
theorem decisive?_ofText (h : level? text = some t) :
    (Filter.ofText text).decisive? "" [] = some (bare t) ∧
      ∀ d ∈ (Filter.ofText text).directives, d.target ≠ some "" := by
  have htargets : ∀ d ∈ (Text.split ',' text).filterMap Directive.parse?, d.target ≠ some "" := by
    intro d hd
    obtain ⟨piece, -, hparse⟩ := List.mem_filterMap.mp hd
    exact Directive.target_ne_of_parse? hparse
  unfold level? at h
  unfold Filter.ofText Filter.ofDirectives
  split
  · rename_i hnil
    rw [hnil] at h
    cases h
  · refine ⟨by rw [Filter.decisive?_foldl_add htargets, h]; rfl, fun d hd ↦ ?_⟩
    rcases Filter.mem_foldl_add hd with hempty | ⟨hmem, -⟩
    · cases hempty
    · exact htargets d hmem

/-- So something decides on every event, and what is about all events is this bare level. -/
theorem exists_decisive? (h : level? text = some t) (target : String) (fields : List String) :
    ∃ d, (Filter.ofText text).decisive? target fields = some d ∧ (d.isGeneral → d = bare t) := by
  obtain ⟨hlevel, htargets⟩ := decisive?_ofText h
  cases hdecisive : (Filter.ofText text).decisive? target fields with
  | none =>
    obtain ⟨hmem, -⟩ := Filter.mem_of_decisive? hlevel
    have hno := List.find?_eq_none.mp hdecisive _ hmem
    exact absurd (Directive.concerns_of_isGeneral rfl target fields) hno
  | some d =>
    refine ⟨d, rfl, fun hgeneral ↦ ?_⟩
    have hsame := Filter.decisive?_of_isGeneral htargets hdecisive hgeneral
    exact Option.some.inj (hsame.symm.trans hlevel)

/-- A bare level by itself can stand behind a target. -/
theorem behind?_of_single (h : level? text = some t) (hcomma : ',' ∉ text.toList) :
    (behind? text).isSome := by
  rw [level?, Text.split_of_not_mem hcomma] at h
  obtain ⟨d, hd, hlevel⟩ := List.mem_filterMap.mp (List.mem_of_getLast? h)
  obtain ⟨piece, hpiece, hparse⟩ := List.mem_filterMap.mp hd
  obtain rfl := List.mem_singleton.mp hpiece
  obtain rfl := Directive.level?_eq_some.mp hlevel
  rw [Directive.behind?_of_level (Directive.ofText?_of_parse? hparse) hcomma]
  rfl

/-- Several directives cannot. -/
theorem behind?_of_several (h : ∀ piece ∈ Text.split ',' text, (Directive.parse? piece).isSome)
    (hcomma : ',' ∈ text.toList) : ¬ (behind? text).isSome := by
  intro hbehind
  obtain ⟨piece, hpiece, hnone⟩ := Directive.exists_blank_of_behind? hbehind hcomma
  have hsome := h piece hpiece
  rw [hnone] at hsome
  cases hsome

end Lists

/-- What is left of the operator's level for unrelated targets.  Let the operator give a list of
directives, all of which can be read, with a bare level.  If this is all that is given, unrelated
events are decided by the operator's directives alone.  If there are more directives, an unrelated
event is still decided by the most specific of them that is about it, unless this is the bare level:
then everything up to INFO is let through, whatever the level is.  So the operator is followed on
all unrelated events if and only if the level stands alone or is INFO itself. -/
theorem operator_level_kept_iff (s : Settings) (t : Threshold)
    (hvalid : ∀ piece ∈ Text.split ',' s.level, (Directive.parse? piece).isSome)
    (hlevel : level? s.level = some t) :
    let own := Filter.ofText s.level
    (',' ∉ s.level.toList → ∀ target, Unrelated target → ∀ fields,
      s.filter.decisive? target fields = own.decisive? target fields) ∧
    (',' ∈ s.level.toList → ∀ target, Unrelated target → ∀ fields, ∃ d,
      own.decisive? target fields = some d ∧ (d.isGeneral → d = bare t) ∧
        s.filter.decisive? target fields =
          some (if d.isGeneral then bare (.upTo .info) else d)) ∧
    ((∀ target, Unrelated target → ∀ fields level,
      s.filter.allows level target fields = own.allows level target fields) ↔
        ',' ∉ s.level.toList ∨ t = .upTo .info) := by
  intro own
  have hsingle : ',' ∉ s.level.toList → ∀ target, Unrelated target → ∀ fields,
      s.filter.decisive? target fields = own.decisive? target fields := by
    intro hcomma target h fields
    rw [decisive?_filter s h, if_pos (behind?_of_single hlevel hcomma)]
  have hseveral : ',' ∈ s.level.toList → ∀ target, Unrelated target → ∀ fields, ∃ d,
      own.decisive? target fields = some d ∧ (d.isGeneral → d = bare t) ∧
        s.filter.decisive? target fields =
          some (if d.isGeneral then bare (.upTo .info) else d) := by
    intro hcomma target h fields
    obtain ⟨d, hd, hgeneral⟩ := exists_decisive? hlevel target fields
    refine ⟨d, hd, hgeneral, ?_⟩
    rw [decisive?_filter s h, if_neg (behind?_of_several hvalid hcomma), hd]
    rfl
  refine ⟨hsingle, hseveral, fun hagree ↦ ?_, ?_⟩
  · -- the event without a target and fields is decided by the bare level
    by_contra hno
    rw [not_or, Decidable.not_not] at hno
    have hunrelated : Unrelated "" := by decide +kernel
    obtain ⟨d, hd, hgeneral, hinstalled⟩ := hseveral hno.1 "" hunrelated []
    obtain ⟨hown, htargets⟩ := decisive?_ofText hlevel
    have hdgeneral := Filter.isGeneral_of_decisive? htargets hd
    refine hno.2 (Threshold.eq_of_allows fun l ↦ ?_)
    have hl := hagree "" hunrelated [] l
    rw [Filter.allows, Filter.allows, hinstalled, if_pos hdgeneral, hown] at hl
    exact hl.symm
  · rintro hkept target h fields l
    by_cases hcomma : ',' ∈ s.level.toList
    · obtain ⟨d, hd, hgeneral, hinstalled⟩ := hseveral hcomma target h fields
      rw [Filter.allows, Filter.allows, hinstalled, hd]
      split
      · rename_i hdgeneral
        rw [hgeneral hdgeneral, hkept.resolve_left (not_not_intro hcomma)]
      · rfl
    · rw [Filter.allows, Filter.allows, hsingle hcomma target h fields]

/-- By itself the level TRACE is kept for all that is unrelated, with another directive it is not,
though that one is about another target. -/
theorem operator_level_kept_iff_trace :
    let single : Settings := { level := "trace" }
    let several : Settings := { level := "trace,x=debug" }
    (∀ target, Unrelated target → ∀ fields level,
      single.filter.allows level target fields =
        (Filter.ofText "trace").allows level target fields) ∧
    ¬ (∀ target, Unrelated target → ∀ fields level,
      several.filter.allows level target fields =
        (Filter.ofText "trace,x=debug").allows level target fields) ∧
    ∃ d, (Filter.ofText "trace,x=debug").decisive? "other" ["message"] = some d ∧
      (d.isGeneral → d = bare (.upTo .trace)) ∧
      several.filter.decisive? "other" ["message"] =
        some (if d.isGeneral then bare (.upTo .info) else d) := by
  intro single several
  obtain ⟨-, -, hsingle⟩ :=
    operator_level_kept_iff single (.upTo .trace) (by decide +kernel) (by decide +kernel)
  obtain ⟨-, hdecides, hseveral⟩ :=
    operator_level_kept_iff several (.upTo .trace) (by decide +kernel) (by decide +kernel)
  refine ⟨hsingle.mpr (.inl (by decide +kernel)), fun hagree ↦ ?_,
    hdecides (by decide +kernel) "other" (by decide +kernel) ["message"]⟩
  rcases hseveral.mp hagree with hcomma | hinfo
  · exact hcomma (by decide +kernel)
  · cases hinfo

/-- With two directives, TRACE for everything and DEBUG for one target, an event of another target
is not printed that these directives let through; and with ERROR for everything, one is printed that
they do not let through. -/
theorem operator_level_lost :
    let settings (text : String) : Settings :=
      .load fun name ↦ if name = "RUST_LOG" then some text else none
    let event (level : Level) : Event := { level, target := "other", message := "probe" }
    Unrelated "other" ∧
    ((∀ piece ∈ Text.split ',' "trace,x=debug", (Directive.parse? piece).isSome) ∧
      level? "trace,x=debug" = some (.upTo .trace) ∧
      (Filter.ofText "trace,x=debug").allows .debug "other" (event .debug).fieldNames = true ∧
      (settings "trace,x=debug").allows (event .debug) = false) ∧
    (∀ piece ∈ Text.split ',' "error,x=debug", (Directive.parse? piece).isSome) ∧
      level? "error,x=debug" = some (.upTo .error) ∧
      (Filter.ofText "error,x=debug").allows .info "other" (event .info).fieldNames = false ∧
      (settings "error,x=debug").allows (event .info) = true := by
  decide +kernel

end Settings

end TokenMint.Log
