import TokenMint.Config
import TokenMint.Proofs.Store.Statement
import TokenMint.Proofs.Text.Pieces
import TokenMint.Store.Source

/-! # Databases in memory and production

Whether a server in production keeps its data is checked on the location that its configuration
names.  The connection text made from the location is read once more, by rules of its own: a scheme
may come several times, and an option can ask for memory whatever the name is.  So the check finds
one way to ask for memory, and others get past it.  `Config.production_inMemory_iff` says which. -/

namespace TokenMint

open Store (bind_eq_ok mapError_eq_ok)

namespace Store.Source

/-! ## What a connection text asks for -/

/-- The options after the question mark, if there is one. -/
def options (query : Option String) : List (String × String) :=
  Bytes.Form.pairs (Bytes.Utf8.encode (query.getD ""))

/-- A connection text that makes sense asks for a database in memory. -/
def InMemory (connection : String) : Prop := ∃ s, parse connection = .ok s ∧ s.inMemory

theorem ofName_inMemory {name : String} {s : Source} (h : ofName name = .ok s) :
    s.inMemory ↔ name = memoryName := by
  unfold ofName at h
  split at h
  · cases h
    simpa
  · split at h
    · cases h
      simpa
    · cases h

/-- Only the option that asks for memory changes whether memory is asked for. -/
theorem set_inMemory {s s' : Source} {option : String × String} (h : s.set option = .ok s') :
    s'.inMemory ↔ s.inMemory ∨ option = ("mode", "memory") := by
  obtain ⟨name, value⟩ := option
  simp only [set] at h
  split at h
  · split at h <;> cases h <;> simp_all
  · split at h
    · cases h
      simp_all
    · cases h
  · split at h <;> cases h <;> simp_all
  · cases h
    simp_all
  · cases h

theorem foldlM_set_inMemory {options : List (String × String)} {s s' : Source}
    (h : options.foldlM set s = .ok s') :
    s'.inMemory ↔ s.inMemory ∨ ("mode", "memory") ∈ options := by
  induction options generalizing s with
  | nil =>
    cases h
    simp
  | cons option rest ih =>
    rw [List.foldlM_cons] at h
    obtain ⟨s₁, hset, hrest⟩ := bind_eq_ok.mp h
    rw [ih hrest, set_inMemory hset, List.mem_cons, or_assoc, eq_comm (a := option)]

theorem parse_eq (connection : String) :
    parse connection =
      ofName (parts connection).1 >>= (options (parts connection).2).foldlM set := rfl

theorem parse_inMemory {connection : String} {s : Source} (h : parse connection = .ok s) :
    s.inMemory ↔ (parts connection).1 = memoryName ∨
      ("mode", "memory") ∈ options (parts connection).2 := by
  rw [parse_eq] at h
  obtain ⟨s₀, hname, hoptions⟩ := bind_eq_ok.mp h
  rw [foldlM_set_inMemory hoptions, ofName_inMemory hname]

theorem inMemory_iff {connection : String} :
    InMemory connection ↔ (∃ s, parse connection = .ok s) ∧
      ((parts connection).1 = memoryName ∨
        ("mode", "memory") ∈ options (parts connection).2) := by
  constructor
  · rintro ⟨s, hs, hmem⟩
    exact ⟨⟨s, hs⟩, (parse_inMemory hs).mp hmem⟩
  · rintro ⟨⟨s, hs⟩, hmem⟩
    exact ⟨s, hs, (parse_inMemory hs).mpr hmem⟩

/-! ## Names behind several schemes -/

/-- A scheme, so many times in a row. -/
def schemes (scheme : String) (n : Nat) : String := String.join (List.replicate n scheme)

theorem schemes_succ (scheme : String) (n : Nat) :
    schemes scheme (n + 1) = scheme ++ schemes scheme n := by
  rw [schemes, List.replicate_succ, String.join_cons, schemes]

/-- What comes down to the name of a database in memory once one more scheme stands before it and
all the schemes are taken off again. -/
def LeadsToMemory (name : String) : Prop :=
  (∃ n, name = schemes "sqlite:" n ++ memoryName) ∨
    ∃ m n, name = "//" ++ (schemes "sqlite://" m ++ (schemes "sqlite:" n ++ memoryName))

/-- A name behind schemes without slashes does not begin with any. -/
theorem not_slashes_prefix (n : Nat) :
    ¬ "//".toList <+: (schemes "sqlite:" n ++ memoryName).toList := by
  cases n with
  | zero => decide
  | succ n => simp [schemes_succ, List.cons_prefix_cons]

theorem not_scheme_prefix (n : Nat) :
    ¬ "sqlite://".toList <+: (schemes "sqlite:" n ++ memoryName).toList := by
  cases n with
  | zero => decide
  | succ n =>
    intro h
    refine not_slashes_prefix n ?_
    simpa [schemes_succ, List.cons_prefix_cons] using h

theorem afterAll_eq_memoryName {name : String} :
    Text.afterAll "sqlite:" name = memoryName ↔ ∃ n, name = schemes "sqlite:" n ++ memoryName := by
  rw [Text.afterAll_eq_iff (by decide), and_iff_left (by decide)]
  rfl

/-- Exactly the names that lead to memory come down to that of a database in memory. -/
theorem leadsToMemory_iff {name : String} :
    Text.afterAll "sqlite:" (Text.afterAll "sqlite://" ("sqlite:" ++ name)) = memoryName ↔
      LeadsToMemory name := by
  rw [afterAll_eq_memoryName]
  constructor
  · rintro ⟨n, hn⟩
    obtain ⟨⟨m, hm⟩, -⟩ := (Text.afterAll_eq_iff (by decide)).mp hn
    rw [← schemes] at hm
    cases m with
    | zero =>
      replace hm : "sqlite:" ++ name = schemes "sqlite:" n ++ memoryName := hm
      cases n with
      | zero => simp [← String.toList_inj, memoryName, schemes] at hm
      | succ n =>
        rw [schemes_succ, String.append_assoc, String.append_right_inj] at hm
        exact .inl ⟨n, hm⟩
    | succ m =>
      rw [schemes_succ, show "sqlite://" = "sqlite:" ++ "//" from rfl, String.append_assoc,
        String.append_assoc, String.append_right_inj] at hm
      exact .inr ⟨m, n, hm⟩
  · rintro (⟨n, rfl⟩ | ⟨m, n, rfl⟩)
    · refine ⟨n + 1, (Text.afterAll_eq_iff (by decide)).mpr ⟨⟨0, ?_⟩, not_scheme_prefix _⟩⟩
      rw [schemes_succ, String.append_assoc]
      rfl
    · refine ⟨n, (Text.afterAll_eq_iff (by decide)).mpr ⟨⟨m + 1, ?_⟩, not_scheme_prefix n⟩⟩
      rw [← schemes, schemes_succ, String.append_assoc, ← String.append_assoc]
      rfl

/-! ## The connection text of a file -/

/-- A scheme stands before the path of a file, and all schemes at the front come off again. -/
theorem parts_file (path : String) :
    parts (Location.file path).connection =
      (Text.afterAll "sqlite:" (Text.afterAll "sqlite://" ("sqlite:" ++ (Text.cut '?' path).1)),
        (Text.cut '?' path).2) := by
  rw [parts, Text.cut_afterAll (by decide), Text.cut_afterAll (by decide), Location.connection,
    Text.cut_append_left (by decide)]

theorem inMemory_file_iff {path : String} :
    InMemory (Location.file path).connection ↔
      (∃ s, parse (Location.file path).connection = .ok s) ∧
        (LeadsToMemory (Text.cut '?' path).1 ∨
          ("mode", "memory") ∈ options (Text.cut '?' path).2) := by
  rw [inMemory_iff, parts_file, leadsToMemory_iff]

end Store.Source

namespace Config

open Store.Source (InMemory LeadsToMemory)

variable {lookup : String → Option String} {c : Config}

/-! ## What is loaded -/

/-- A configuration is loaded if each of its parts can be read and it passes its checks. -/
theorem load_eq_ok :
    load lookup = .ok c ↔
      (∃ access refresh, seconds lookup .access = .ok access ∧
        seconds lookup .refresh = .ok refresh ∧
        Lifetimes.make access refresh = .ok c.lifetimes) ∧
      readPort lookup = .ok c.port ∧ readLocation lookup = .ok c.location ∧
      readCost lookup = .ok c.cost ∧ c.host = (lookup "HOST").getD standardHost ∧
      c.environment = readEnvironment lookup ∧ c.check = .ok () := by
  unfold load
  constructor
  · intro h
    obtain ⟨access, haccess, h⟩ := bind_eq_ok.mp h
    obtain ⟨refresh, hrefresh, h⟩ := bind_eq_ok.mp h
    obtain ⟨port, hport, h⟩ := bind_eq_ok.mp h
    obtain ⟨location, hlocation, h⟩ := bind_eq_ok.mp h
    obtain ⟨lifetimes, hlifetimes, h⟩ := bind_eq_ok.mp h
    obtain ⟨cost, hcost, h⟩ := bind_eq_ok.mp h
    obtain ⟨_, hcheck, h⟩ := bind_eq_ok.mp h
    cases h
    exact ⟨⟨access, refresh, haccess, hrefresh, mapError_eq_ok.mp hlifetimes⟩, hport, hlocation,
      hcost, rfl, rfl, hcheck⟩
  · rintro ⟨⟨access, refresh, haccess, hrefresh, hlifetimes⟩, hport, hlocation, hcost, hhost,
      henvironment, hcheck⟩
    simp only [bind_eq_ok]
    refine ⟨_, haccess, _, hrefresh, _, hport, _, hlocation, _, mapError_eq_ok.mpr hlifetimes, _,
      hcost, (), ?_, ?_⟩
    · rw [← hcheck, ← hhost, ← henvironment]
    · rw [← hhost, ← henvironment]
      rfl

/-- A location that is read is the standard one, or the one that the variable names. -/
theorem readLocation_eq_ok {l : Location} :
    readLocation lookup = .ok l ↔
      (lookup "DATABASE_URL" = none ∧ l = .standard) ∨
        ∃ url, lookup "DATABASE_URL" = some url ∧ Location.parse url = .ok l := by
  unfold readLocation
  split
  · simp_all [eq_comm]
  · simp_all [mapError_eq_ok]

theorem not_inMemory_standard : ¬ InMemory Location.standard.connection := by
  have hparse : Store.Source.parse Location.standard.connection =
      .ok { name := "./data/oauth2_tokens.db" } := by decide +kernel
  rintro ⟨s, hs, hmem⟩
  cases hparse.symm.trans hs
  cases hmem

/-- A server in production has a database in memory exactly when its configuration names one past
the check: as a path whose name is that of a database in memory, perhaps behind more schemes than
the one that the location has lost, or whose options ask for memory. -/
theorem production_inMemory_iff (h : load lookup = .ok c) (hp : c.environment = .production) :
    InMemory c.location.connection ↔
      ∃ url path, lookup "DATABASE_URL" = some url ∧ Location.parse url = .ok (.file path) ∧
        (∃ s, Store.Source.parse (Location.file path).connection = .ok s) ∧
        (LeadsToMemory (Text.cut '?' path).1 ∨
          ("mode", "memory") ∈ Store.Source.options (Text.cut '?' path).2) := by
  obtain ⟨-, -, hlocation, -, -, -, hcheck⟩ := load_eq_ok.mp h
  have hfile : c.location ≠ .memory := fun hm ↦ (check_eq_ok.mp hcheck).2 ⟨hp, hm⟩
  constructor
  · intro hmem
    rcases readLocation_eq_ok.mp hlocation with ⟨-, hstandard⟩ | ⟨url, hurl, hparse⟩
    · rw [hstandard] at hmem
      exact (not_inMemory_standard hmem).elim
    · cases hl : c.location with
      | memory => exact (hfile hl).elim
      | file path =>
        rw [hl] at hmem hparse
        exact ⟨url, path, hurl, hparse, Store.Source.inMemory_file_iff.mp hmem⟩
  · rintro ⟨url, path, hurl, hparse, hmem⟩
    rcases readLocation_eq_ok.mp hlocation with ⟨hnone, -⟩ | ⟨url', hurl', hparse'⟩
    · rw [hnone] at hurl
      cases hurl
    · obtain rfl : url = url' := Option.some.inj (hurl.symm.trans hurl')
      rw [← Except.ok.inj (hparse.symm.trans hparse')]
      exact Store.Source.inMemory_file_iff.mpr hmem

/-- The variables of a server in production whose database is at `url`. -/
def production (url : String) (name : String) : Option String :=
  [("ACCESS_TOKEN_LIFETIME", "3600"), ("REFRESH_TOKEN_LIFETIME", "7200"),
    ("ENVIRONMENT", "production"), ("DATABASE_URL", url)].lookup name

/-- The configuration that these variables describe, when `url` is that of a file. -/
def productionAt (path : String) : Config where
  port := standardPort
  host := standardHost
  location := .file path
  lifetimes := ⟨3600, 7200⟩
  cost := standardCost
  environment := .production

/-- A scheme too many hides the name of a database in memory, and a plain path hides nothing. -/
theorem production_inMemory_iff_hidden :
    (load (production "sqlite:sqlite::memory:") = .ok (productionAt "sqlite::memory:") ∧
      InMemory (productionAt "sqlite::memory:").location.connection) ∧
    load (production "sqlite:tokens.db") = .ok (productionAt "tokens.db") ∧
      ¬ InMemory (productionAt "tokens.db").location.connection := by
  have hhidden : load (production "sqlite:sqlite::memory:") =
      .ok (productionAt "sqlite::memory:") := by decide +kernel
  have hplain : load (production "sqlite:tokens.db") = .ok (productionAt "tokens.db") := by
    decide +kernel
  refine ⟨⟨hhidden, (production_inMemory_iff hhidden rfl).mpr ?_⟩, hplain, fun hmem ↦ ?_⟩
  · have hparse : Store.Source.parse (Location.file "sqlite::memory:").connection =
        .ok { inMemory := true } := by decide +kernel
    exact ⟨_, _, rfl, by decide +kernel, ⟨_, hparse⟩, .inl (.inl ⟨1, by decide +kernel⟩)⟩
  · obtain ⟨_, path, hurl, hparse, -, hasked⟩ := (production_inMemory_iff hplain rfl).mp hmem
    cases hurl
    have hpath : Location.parse "sqlite:tokens.db" = .ok (.file "tokens.db") := by decide +kernel
    cases hpath.symm.trans hparse
    rcases hasked with hname | hoption
    · rw [← Store.Source.leadsToMemory_iff] at hname
      revert hname
      decide +kernel
    · revert hoption
      decide +kernel

/-- The bare name of a database in memory is a path to the check, and memory to what opens it. -/
theorem production_in_memory :
    ¬ ∀ (lookup : String → Option String) (c : Config), load lookup = .ok c →
      c.environment = .production → ¬ InMemory c.location.connection := by
  intro hall
  have hload : load (production ":memory:") = .ok (productionAt ":memory:") := by decide +kernel
  have hparse : Store.Source.parse (productionAt ":memory:").location.connection =
      .ok { inMemory := true } := by decide +kernel
  exact hall _ _ hload rfl ⟨_, hparse, rfl⟩

end Config

end TokenMint
