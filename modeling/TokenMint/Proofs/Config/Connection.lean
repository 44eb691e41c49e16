import TokenMint.Location
import TokenMint.Proofs.Text.Pieces
import TokenMint.Store.Disk

/-! # Reading a connection text as a location

The connection text of a location is the scheme without slashes and the path.  To read it back is to
take off a scheme, with slashes if there are any: so slashes at the start of the path are taken for
those of the scheme, and of a path that has been given without a scheme nothing tells that it was
no name with a meaning of its own.  `Location.parse_connection_iff` says which texts name a location
that is read back, to the letter and up to the spelling of its path. -/

namespace TokenMint

theorem Text.after?_eq_some {start s r : String} : after? start s = some r ↔ s = start ++ r := by
  rw [after?, Option.map_eq_some_iff, ← String.toList_inj, String.toList_append]
  constructor
  · rintro ⟨l, hl, rfl⟩
    rw [String.toList_ofList]
    exact (List.isPrefixOf?_eq_some_iff_append_eq.mp hl).symm
  · intro h
    exact ⟨r.toList, List.isPrefixOf?_eq_some_iff_append_eq.mpr h.symm, String.ofList_toList⟩

theorem Text.after?_eq_none {start s : String} :
    after? start s = none ↔ ¬ start.toList <+: s.toList := by
  rw [Option.eq_none_iff_forall_ne_some]
  simp only [ne_eq, after?_eq_some, ← String.toList_inj, String.toList_append]
  constructor
  · rintro h ⟨r, hr⟩
    exact h (.ofList r) (by rw [String.toList_ofList, hr])
  · rintro h r hr
    exact h ⟨r.toList, hr.symm⟩

namespace Store.Path

/-- Whether a piece of a path leads anywhere. -/
def leads (name : String) : Bool := name ≠ "" && name ≠ "."

/-- What a path is made of, as far as paths are told apart: whether it begins at the root, and the
names that lead on from there.  A dot counts only where a path begins that has no root. -/
def components (path : String) : Bool × List String :=
  (isAbsolute path,
    match Text.split '/' path with
    | "." :: names => "." :: names.filter leads
    | names => names.filter leads)

theorem split_slash (path : String) : Text.split '/' ("/" ++ path) = "" :: Text.split '/' path := by
  have hsplit : Pieces.split '/' ('/' :: path.toList) = [] :: Pieces.split '/' path.toList := by
    rw [Pieces.split_eq_splitOn, Pieces.split_eq_splitOn,
      ← List.nil_append ('/' :: path.toList),
      List.splitOn_append_cons_self_of_not_mem List.not_mem_nil]
  simp [Text.split, hsplit]

theorem isAbsolute_slash (path : String) : isAbsolute ("/" ++ path) = true := by
  simp [isAbsolute, Text.after?, List.isPrefixOf?]

/-- A second slash at the start makes no difference. -/
theorem components_slash_slash (path : String) :
    components ("//" ++ path) = components ("/" ++ path) := by
  rw [show "//" = "/" ++ "/" from rfl, String.append_assoc, components, components,
    isAbsolute_slash, isAbsolute_slash, split_slash, split_slash]
  rfl

end Store.Path

namespace Location

open Store.Path (components)

/-- Two locations are the same: both in memory, or files whose paths are made of the same. -/
def Same : Location → Location → Prop
  | .file path, .file path' => components path = components path'
  | .memory, .memory => True
  | _, _ => False

/-! ## Schemes -/

/-- What follows a scheme names a location. -/
def named (path : String) : Except Fault Location :=
  if path = ":memory:" then .ok .memory
  else if path = "" then .error .missingPath
  else .ok (.file path)

theorem parse_eq (s : String) :
    parse s =
      match afterScheme? s with
      | some path => named path
      | none => if Text.contains "://" s then .error (.unsupportedScheme s) else .ok (.file s) :=
  rfl

/-- Slashes at the start of a path are taken for those of the scheme. -/
theorem parse_connection_file (path : String) :
    parse (file path).connection =
      match Text.after? "//" path with
      | some rest => named rest
      | none => named path := by
  have hslashes : Text.after? "sqlite://" ("sqlite:" ++ path) = Text.after? "//" path := by
    simp [Text.after?, List.isPrefixOf?]
  have hplain : Text.after? "sqlite:" ("sqlite:" ++ path) = some path :=
    Text.after?_eq_some.mpr rfl
  rw [parse_eq, connection, afterScheme?, hslashes, hplain]
  cases Text.after? "//" path <;> rfl

theorem named_eq_file {path path' : String} :
    named path = .ok (.file path') ↔ path ≠ ":memory:" ∧ path ≠ "" ∧ path = path' := by
  unfold named
  split
  · simp [*]
  · split <;> simp [*]

/-- A text names a location behind a scheme with slashes, behind one without, or without any. -/
theorem parse_cases {s : String} {l : Location} (h : parse s = .ok l) :
    (∃ path, s = "sqlite://" ++ path ∧ named path = .ok l) ∨
      (∃ path, s = "sqlite:" ++ path ∧ ¬ "//".toList <+: path.toList ∧ named path = .ok l) ∨
      (¬ "sqlite:".toList <+: s.toList ∧ l = .file s) := by
  rw [parse_eq, afterScheme?] at h
  cases hslashes : Text.after? "sqlite://" s with
  | some path =>
    rw [hslashes] at h
    exact .inl ⟨path, Text.after?_eq_some.mp hslashes, h⟩
  | none =>
    rw [hslashes] at h
    cases hplain : Text.after? "sqlite:" s with
    | some path =>
      rw [hplain] at h
      obtain rfl := Text.after?_eq_some.mp hplain
      refine .inr (.inl ⟨path, rfl, fun hp ↦ Text.after?_eq_none.mp hslashes ?_, h⟩)
      simpa [List.cons_prefix_cons] using hp
    | none =>
      rw [hplain] at h
      refine .inr (.inr ⟨Text.after?_eq_none.mp hplain, ?_⟩)
      change (if _ then _ else _) = _ at h
      split at h
      · cases h
      · cases h
        rfl

/-- What stands behind a scheme shows where the text with the scheme goes on. -/
theorem scheme_prefix_iff (start rest : String) :
    ("sqlite:" ++ start).toList <+: ("sqlite:" ++ rest).toList ↔ start.toList <+: rest.toList := by
  rw [String.toList_append, String.toList_append, List.prefix_append_right_inj]

theorem not_slash_prefix_scheme (start rest : String) :
    ¬ ("/" ++ start).toList <+: ("sqlite:" ++ rest).toList := by
  simp [List.cons_prefix_cons]

/-- Of a text that names a file, the text of the path shows where it begins. -/
theorem begins_iff {s path : String} (h : parse s = .ok (.file path)) :
    (path = "" ↔ s = "") ∧ (path = ":memory:" ↔ s = ":memory:") ∧
      ("//".toList <+: path.toList ↔
        "//".toList <+: s.toList ∨ "sqlite:////".toList <+: s.toList) ∧
      ("///".toList <+: path.toList ↔
        "///".toList <+: s.toList ∨ "sqlite://///".toList <+: s.toList) := by
  rcases parse_cases h with ⟨rest, rfl, hrest⟩ | ⟨rest, rfl, hno, hrest⟩ | ⟨hno, hl⟩
  · obtain ⟨hmemory, hempty, rfl⟩ := named_eq_file.mp hrest
    simp [hmemory, hempty, ← String.toList_inj, List.cons_prefix_cons]
  · obtain ⟨hmemory, hempty, rfl⟩ := named_eq_file.mp hrest
    have hslashes (start : String) (hstart : "//".toList <+: start.toList) :
        ¬ start.toList <+: rest.toList := fun hs ↦ hno (hstart.trans hs)
    have hscheme (start : String) (hstart : "//".toList <+: start.toList) :
        ¬ ("sqlite:" ++ start).toList <+: ("sqlite:" ++ rest).toList := by
      rw [scheme_prefix_iff]
      exact hslashes start hstart
    refine ⟨by simp [hempty], by simp [hmemory, ← String.toList_inj],
      iff_of_false hno ?_, iff_of_false (hslashes "///" (by decide)) ?_⟩
    · exact not_or.mpr ⟨not_slash_prefix_scheme "/" rest, hscheme "////" (by decide)⟩
    · exact not_or.mpr ⟨not_slash_prefix_scheme "//" rest, hscheme "/////" (by decide)⟩
  · cases hl
    have hscheme {start : String} (hstart : "sqlite:".toList <+: start.toList) :
        ¬ start.toList <+: s.toList := fun hs ↦ hno (hstart.trans hs)
    exact ⟨.rfl, .rfl, (or_iff_left (hscheme (by decide))).symm,
      (or_iff_left (hscheme (by decide))).symm⟩

/-! ## There and back -/

variable {path : String}

/-- A path is read back to the letter unless it begins with two slashes or means something else. -/
theorem parse_connection_file_eq :
    parse (file path).connection = .ok (.file path) ↔
      path ≠ "" ∧ path ≠ ":memory:" ∧ ¬ "//".toList <+: path.toList := by
  rw [parse_connection_file]
  cases hslashes : Text.after? "//" path with
  | none =>
    have hno := Text.after?_eq_none.mp hslashes
    simp only [named_eq_file, hno, not_false_eq_true, and_true]
    exact and_comm
  | some rest =>
    obtain rfl := Text.after?_eq_some.mp hslashes
    have hprefix : "//".toList <+: ("//" ++ rest).toList := ⟨rest.toList, by simp⟩
    have hne : rest ≠ "//" ++ rest := fun heq ↦ by
      simpa using congrArg String.length heq
    simp only [named_eq_file, hprefix, hne, not_true_eq_false, and_false]

theorem named_eq_memory : named path = .ok .memory ↔ path = ":memory:" := by
  unfold named
  split
  · simp [*]
  · split <;> simp [*]

/-- There are two ways to ask for memory. -/
theorem parse_eq_memory {s : String} (h : parse s = .ok .memory) :
    s = "sqlite://:memory:" ∨ s = "sqlite::memory:" := by
  rcases parse_cases h with ⟨rest, rfl, hrest⟩ | ⟨rest, rfl, -, hrest⟩ | ⟨-, hl⟩
  · obtain rfl := named_eq_memory.mp hrest
    exact .inl rfl
  · obtain rfl := named_eq_memory.mp hrest
    exact .inr rfl
  · cases hl

theorem exists_named_same {rest : String} :
    (∃ l, named rest = .ok l ∧ l.Same (.file path)) ↔
      rest ≠ ":memory:" ∧ rest ≠ "" ∧ components rest = components path := by
  constructor
  · rintro ⟨l, hl, hsame⟩
    cases l with
    | memory => cases hsame
    | file path' =>
      obtain ⟨hmemory, hempty, rfl⟩ := named_eq_file.mp hl
      exact ⟨hmemory, hempty, hsame⟩
  · rintro ⟨hmemory, hempty, hsame⟩
    exact ⟨.file rest, named_eq_file.mpr ⟨hmemory, hempty, rfl⟩, hsame⟩

/-- Two slashes make a path begin at the root, so without them it must begin there as well. -/
theorem components_eq_slashes {rest : String} :
    components rest = components ("//" ++ rest) ↔ "/".toList <+: rest.toList := by
  constructor
  · intro h
    have habsolute : Store.Path.isAbsolute rest = true := by
      rw [show Store.Path.isAbsolute rest = (components rest).1 from rfl, h,
        Store.Path.components_slash_slash]
      exact Store.Path.isAbsolute_slash rest
    obtain ⟨r, hr⟩ := Option.isSome_iff_exists.mp habsolute
    rw [Text.after?_eq_some.mp hr, String.toList_append]
    exact List.prefix_append _ _
  · rintro ⟨r, hr⟩
    obtain rfl : rest = "/" ++ .ofList r := by
      simpa [← String.toList_inj] using hr.symm
    rw [Store.Path.components_slash_slash, ← String.append_assoc,
      show "/" ++ "/" = "//" from rfl, Store.Path.components_slash_slash]

/-- Up to the spelling of the path, more slashes than two are as good as one. -/
theorem parse_connection_file_same :
    (∃ l, parse (file path).connection = .ok l ∧ l.Same (.file path)) ↔
      path ≠ "" ∧ path ≠ ":memory:" ∧
        ("//".toList <+: path.toList → "///".toList <+: path.toList) := by
  rw [parse_connection_file]
  cases hslashes : Text.after? "//" path with
  | none =>
    have hno := Text.after?_eq_none.mp hslashes
    simp only [exists_named_same, hno, false_imp_iff, and_true]
    exact and_comm
  | some rest =>
    obtain rfl := Text.after?_eq_some.mp hslashes
    have htwo : "//".toList <+: ("//" ++ rest).toList := ⟨rest.toList, by simp⟩
    have hthree : "///".toList <+: ("//" ++ rest).toList ↔ "/".toList <+: rest.toList := by
      simp [List.cons_prefix_cons]
    have hempty : "//" ++ rest ≠ "" := by simp
    have hmemory : "//" ++ rest ≠ ":memory:" := by simp [← String.toList_inj]
    simp only [exists_named_same, components_eq_slashes, hthree, htwo, hempty, hmemory, ne_eq,
      not_false_eq_true, true_and, forall_const]
    refine ⟨fun h ↦ h.2.2, fun h ↦ ⟨?_, ?_, h⟩⟩
    · rintro rfl
      exact absurd h (by decide)
    · rintro rfl
      exact absurd h (by decide)

/-- Which texts name a location whose connection text is read back as that location: those without
a scheme are neither empty nor the name of a database in memory, and neither they nor what follows
the slashes of a scheme begins with two slashes.  If there are more than two, then what is read back
is the same location after all, with two slashes less.  Of a path that begins with two slashes, what
follows these is read. -/
theorem parse_connection_iff {s : String} {l : Location} (h : parse s = .ok l) :
    (parse l.connection = .ok l ↔
      s ≠ "" ∧ s ≠ ":memory:" ∧
        ¬ ("//".toList <+: s.toList ∨ "sqlite:////".toList <+: s.toList)) ∧
    ((∃ l', parse l.connection = .ok l' ∧ l'.Same l) ↔
      s ≠ "" ∧ s ≠ ":memory:" ∧
        ("//".toList <+: s.toList ∨ "sqlite:////".toList <+: s.toList →
          "///".toList <+: s.toList ∨ "sqlite://///".toList <+: s.toList)) ∧
    (∀ path, l = .file ("//" ++ path) → parse l.connection = named path) ∧
    (l = .file ":memory:" → parse l.connection = .ok .memory) ∧
    (l = .file "" → parse l.connection = .error .missingPath) := by
  have hslashes (path : String) :
      parse (Location.file ("//" ++ path)).connection = named path := by
    rw [parse_connection_file, Text.after?_eq_some.mpr rfl]
  have hmemory : parse (Location.file ":memory:").connection = .ok .memory := by decide +kernel
  have hempty : parse (Location.file "").connection = .error .missingPath := by decide +kernel
  refine ⟨?_, ?_, fun path hl ↦ hl ▸ hslashes path, fun hl ↦ hl ▸ hmemory, fun hl ↦ hl ▸ hempty⟩
  · cases l with
    | memory => rcases parse_eq_memory h with rfl | rfl <;> decide +kernel
    | file path =>
      obtain ⟨hs₀, hsm, hs₂, -⟩ := begins_iff h
      rw [parse_connection_file_eq, hs₂, ne_eq, ne_eq, hs₀, hsm]
  · cases l with
    | memory =>
      have hread : parse Location.memory.connection = .ok .memory := by decide +kernel
      refine iff_of_true ⟨.memory, hread, trivial⟩ ?_
      rcases parse_eq_memory h with rfl | rfl <;> decide +kernel
    | file path =>
      obtain ⟨hs₀, hsm, hs₂, hs₃⟩ := begins_iff h
      rw [parse_connection_file_same, hs₂, hs₃, ne_eq, ne_eq, hs₀, hsm]

/-- A plain path is read back; one with three slashes too many is so up to these; of one with a
slash too many, the root is lost. -/
theorem parse_connection_iff_root :
    (parse "sqlite:///srv/tokens.db" = .ok (.file "/srv/tokens.db") ∧
      parse (Location.file "/srv/tokens.db").connection = .ok (.file "/srv/tokens.db")) ∧
    (parse "sqlite://///srv/tokens.db" = .ok (.file "///srv/tokens.db") ∧
      ∃ l', parse (Location.file "///srv/tokens.db").connection = .ok l' ∧
        l'.Same (.file "///srv/tokens.db")) ∧
    parse "sqlite:////srv/tokens.db" = .ok (.file "//srv/tokens.db") ∧
      parse (Location.file "//srv/tokens.db").connection = .ok (.file "srv/tokens.db") := by
  have hone : parse "sqlite:///srv/tokens.db" = .ok (.file "/srv/tokens.db") := by decide +kernel
  have htwo : parse "sqlite:////srv/tokens.db" = .ok (.file "//srv/tokens.db") := by decide +kernel
  have hthree : parse "sqlite://///srv/tokens.db" = .ok (.file "///srv/tokens.db") := by
    decide +kernel
  refine ⟨⟨hone, (parse_connection_iff hone).1.mpr (by decide)⟩,
    ⟨hthree, (parse_connection_iff hthree).2.1.mpr (by decide)⟩, htwo, ?_⟩
  rw [(parse_connection_iff htwo).2.2.1 "srv/tokens.db" rfl]
  decide +kernel

/-- The connection text of a path from the root can be that of a path from the home directory. -/
theorem connection_loses_root :
    ¬ ∀ (s : String) (l : Location), parse s = .ok l →
      ∃ l', parse l.connection = .ok l' ∧ l'.Same l := by
  intro hall
  have hnamed : parse "sqlite:////srv/tokens.db" = .ok (.file "//srv/tokens.db") := by
    decide +kernel
  have hread : parse (file "//srv/tokens.db").connection = .ok (.file "srv/tokens.db") := by
    decide +kernel
  obtain ⟨l', hl', hsame⟩ := hall _ _ hnamed
  cases hread.symm.trans hl'
  revert hsame
  change components "srv/tokens.db" ≠ components "//srv/tokens.db"
  decide +kernel

end Location

end TokenMint
