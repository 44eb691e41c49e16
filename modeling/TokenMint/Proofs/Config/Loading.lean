import TokenMint.Proofs.Config.Memory
import TokenMint.Proofs.Text.Decimal

/-! # Which variables make a configuration

What variables describe is said here without loading it: `Config.Describes` for the configuration,
with every number by what its digits mean, and `Config.Fails` for each check and the faults that it
finds.  Loading gives exactly the configuration that the variables describe, and otherwise the fault
of the first check that fails: `Config.load_exactly`. -/

namespace TokenMint

open Store (mapError_eq_error mapError_eq_ok)
open Text.Decimal (Range Signed Unsigned)

/-- The environment that a name stands for, in any case. -/
def Environment.Means (name : String) : Environment → Prop
  | .production => Text.lower name ∈ ["production", "prod"]
  | .testing => Text.lower name ∈ ["testing", "test"]
  | .development => Text.lower name ∉ ["production", "prod", "testing", "test"]

theorem Environment.ofText_eq_iff {name : String} {e : Environment} :
    ofText name = e ↔ e.Means name := by
  unfold ofText
  dsimp only
  split
  · rename_i h
    rcases h with h | h <;> cases e <;> simp [Means, h]
  · rename_i hproduction
    split
    · rename_i h
      rcases h with h | h <;> cases e <;> simp [Means, h]
    · rename_i htesting
      cases e <;> simp_all [Means]

namespace Config

variable {lookup : String → Option String}

/-! ## What is described -/

/-- A variable holds an integer, perhaps with blanks around it. -/
def Holds (lookup : String → Option String) (v : NumberVariable) (n : Int) : Prop :=
  ∃ s, lookup v.name = some s ∧ Signed (Text.trim s).toList n

/-- A variable gives what its text means, and a standard value if it is not there. -/
def Gives {α : Type} (lookup : String → Option String) (name : String) (standard : α)
    (Means : String → α → Prop) (a : α) : Prop :=
  match lookup name with
  | none => a = standard
  | some s => Means s a

def GivesPort (lookup : String → Option String) : UInt16 → Prop :=
  Gives lookup "HTTP_PORT" 8080 fun s port ↦ Unsigned s.toList port.toNat

def GivesHost (lookup : String → Option String) : String → Prop :=
  Gives lookup "HOST" "0.0.0.0" fun s host ↦ host = s

def GivesLocation (lookup : String → Option String) : Location → Prop :=
  Gives lookup "DATABASE_URL" (.file "./data/oauth2_tokens.db") fun s l ↦ Location.parse s = .ok l

def GivesCost (lookup : String → Option String) : UInt32 → Prop :=
  Gives lookup "BCRYPT_COST" 12 fun s cost ↦ Unsigned s.toList cost.toNat

def GivesEnvironment (lookup : String → Option String) : Environment → Prop :=
  Gives lookup "ENVIRONMENT" .development Environment.Means

/-- The configuration that variables describe. -/
structure Describes (lookup : String → Option String) (c : Config) : Prop where
  access : Holds lookup .access c.lifetimes.access
  refresh : Holds lookup .refresh c.lifetimes.refresh
  accessAllowed : 1 ≤ c.lifetimes.access ∧ c.lifetimes.access ≤ 315360000
  refreshAllowed : 1 ≤ c.lifetimes.refresh ∧ c.lifetimes.refresh ≤ 315360000
  port : GivesPort lookup c.port
  host : GivesHost lookup c.host
  location : GivesLocation lookup c.location
  cost : GivesCost lookup c.cost
  costAllowed : 4 ≤ c.cost ∧ c.cost ≤ 31
  environment : GivesEnvironment lookup c.environment
  /-- A server in production keeps its data. -/
  durable : ¬ (c.environment = .production ∧ c.location = .memory)

/-! ## What is checked -/

/-- What is checked of the variables. -/
inductive Check where
  /-- A variable holds a number. -/
  | number (v : NumberVariable)
  | location
  | lifetime (l : Lifetimes.Fault)
  | cost
  | durability
deriving DecidableEq, Repr

/-- The checks in their order. -/
def Check.order : List Check :=
  [.number .access, .number .refresh, .number .port, .location, .lifetime .access,
    .lifetime .refresh, .number .cost, .cost, .durability]

/-- The numbers that a variable can hold. -/
def NumberVariable.range : NumberVariable → Range
  | .access | .refresh => .signed64
  | .port => .word16
  | .cost => .word32

/-- A variable that has no standard value.  Blanks around its number do not count. -/
def NumberVariable.Required (v : NumberVariable) : Prop := v = .access ∨ v = .refresh

instance (v : NumberVariable) : Decidable v.Required := inferInstanceAs (Decidable (_ ∨ _))

/-- The part of a variable's text that has to be a number. -/
def NumberVariable.numeral (v : NumberVariable) (s : String) : String :=
  if v.Required then Text.trim s else s

/-- The variable of a lifetime. -/
def NumberVariable.ofLifetime : Lifetimes.Fault → NumberVariable
  | .access => .access
  | .refresh => .refresh

/-- A check finds a fault. -/
inductive Fails (lookup : String → Option String) : Check → Fault → Prop
  | missing {v : NumberVariable} (hv : v.Required) (h : lookup v.name = none) :
    Fails lookup (.number v) (.missing v)
  | number {v : NumberVariable} {s : String} {f : Text.Decimal.Fault} (h : lookup v.name = some s)
    (hf : v.range.Refuses (v.numeral s).toList f) : Fails lookup (.number v) (.number v f)
  | location {url : String} {f : Location.Fault} (h : lookup "DATABASE_URL" = some url)
    (hf : Location.parse url = .error f) : Fails lookup .location (.location f)
  | lifetime {l : Lifetimes.Fault} {n : Int} (h : Holds lookup (.ofLifetime l) n)
    (hn : ¬ (1 ≤ n ∧ n ≤ 315360000)) : Fails lookup (.lifetime l) (.lifetime l)
  | cost {cost : UInt32} (h : GivesCost lookup cost) (hcost : ¬ (4 ≤ cost ∧ cost ≤ 31)) :
    Fails lookup .cost (.cost cost)
  | durability (he : GivesEnvironment lookup .production) (hl : GivesLocation lookup .memory) :
    Fails lookup .durability .memoryInProduction

/-- Of some checks, the first one that fails finds a fault. -/
def FirstFault (lookup : String → Option String) (f : Fault) : List Check → Prop
  | [] => False
  | k :: ks => Fails lookup k f ∨ (∀ g, ¬ Fails lookup k g) ∧ FirstFault lookup f ks

/-! ## Parts of a configuration -/

section Parts

variable {v : NumberVariable} {n : Int} {f : Fault}

theorem seconds_of_none (h : lookup v.name = none) : seconds lookup v = .error (.missing v) := by
  rw [seconds, required, h]
  rfl

theorem seconds_of_some {s : String} (h : lookup v.name = some s) :
    seconds lookup v = (Text.Decimal.read .signed64 (Text.trim s)).mapError (.number v) := by
  rw [seconds, required, h]
  rfl

theorem seconds_eq_ok :
    seconds lookup v = .ok n ↔ Holds lookup v n ∧ n ∈ Range.signed64 := by
  cases h : lookup v.name with
  | none => simp [seconds_of_none h, Holds, h]
  | some s =>
    rw [seconds_of_some h, mapError_eq_ok, Text.Decimal.read_signed (by decide) (by decide)]
    simp [Holds, h]

theorem seconds_eq_error (hv : v.Required) :
    seconds lookup v = .error f ↔ Fails lookup (.number v) f := by
  have hrange : v.range = .signed64 := by rcases hv with rfl | rfl <;> rfl
  have hnumeral (s : String) : v.numeral s = Text.trim s := if_pos hv
  cases h : lookup v.name with
  | none =>
    rw [seconds_of_none h, Except.error.injEq]
    constructor
    · rintro rfl
      exact .missing hv h
    · rintro (_ | ⟨h', -⟩)
      · rfl
      · cases h.symm.trans h'
  | some s =>
    rw [seconds_of_some h, mapError_eq_error]
    constructor
    · rintro ⟨g, hg, rfl⟩
      refine .number h ?_
      rw [hrange, hnumeral]
      exact (Text.Decimal.read_eq_error (by decide) (by decide)).mp hg
    · rintro (⟨-, h'⟩ | @⟨_, s', g, h', hg⟩)
      · cases h.symm.trans h'
      · cases h.symm.trans h'
        rw [hrange, hnumeral] at hg
        exact ⟨g, (Text.Decimal.read_eq_error (by decide) (by decide)).mpr hg, rfl⟩

theorem readPort_eq_ok {port : UInt16} : readPort lookup = .ok port ↔ GivesPort lookup port := by
  unfold readPort GivesPort Gives NumberVariable.name
  cases lookup "HTTP_PORT" with
  | none => simp [standardPort, eq_comm]
  | some s => simp only [mapError_eq_ok, Text.Decimal.readWord16_eq_ok]

theorem readCost_eq_ok {cost : UInt32} : readCost lookup = .ok cost ↔ GivesCost lookup cost := by
  unfold readCost GivesCost Gives NumberVariable.name
  cases lookup "BCRYPT_COST" with
  | none => simp [standardCost, eq_comm]
  | some s => simp only [mapError_eq_ok, Text.Decimal.readWord32_eq_ok]

theorem readLocation_eq_ok_iff {l : Location} :
    readLocation lookup = .ok l ↔ GivesLocation lookup l := by
  unfold readLocation GivesLocation Gives
  cases lookup "DATABASE_URL" with
  | none => simp [Location.standard, eq_comm]
  | some url => simp only [mapError_eq_ok]

theorem readEnvironment_eq_iff {e : Environment} :
    readEnvironment lookup = e ↔ GivesEnvironment lookup e := by
  unfold readEnvironment GivesEnvironment Gives
  cases lookup "ENVIRONMENT" with
  | none => simp [eq_comm]
  | some s => exact Environment.ofText_eq_iff

/-- A variable with a standard value fails if its text is no number of its range. -/
theorem fails_number_iff (hv : ¬ v.Required) :
    Fails lookup (.number v) f ↔
      ∃ s, lookup v.name = some s ∧ ∃ g, v.range.Refuses s.toList g ∧ .number v g = f := by
  have hnumeral (s : String) : v.numeral s = s := if_neg hv
  constructor
  · rintro (⟨h, -⟩ | @⟨_, s, g, h, hg⟩)
    · exact absurd h hv
    · exact ⟨s, h, g, hnumeral s ▸ hg, rfl⟩
  · rintro ⟨s, h, g, hg, rfl⟩
    exact .number h ((hnumeral s).symm ▸ hg)

theorem readPort_eq_error : readPort lookup = .error f ↔ Fails lookup (.number .port) f := by
  rw [fails_number_iff (by decide)]
  unfold readPort
  cases lookup NumberVariable.port.name with
  | none => simp
  | some s =>
    simp only [mapError_eq_error, Text.Decimal.readWord16_eq_error, Option.some_inj,
      exists_eq_left', NumberVariable.range]

theorem readCost_eq_error : readCost lookup = .error f ↔ Fails lookup (.number .cost) f := by
  rw [fails_number_iff (by decide)]
  unfold readCost
  cases lookup NumberVariable.cost.name with
  | none => simp
  | some s =>
    simp only [mapError_eq_error, Text.Decimal.readWord32_eq_error, Option.some_inj,
      exists_eq_left', NumberVariable.range]

theorem readLocation_eq_error : readLocation lookup = .error f ↔ Fails lookup .location f := by
  unfold readLocation
  cases h : lookup "DATABASE_URL" with
  | none =>
    refine iff_of_false nofun ?_
    rintro ⟨⟩
    simp_all
  | some url =>
    rw [mapError_eq_error]
    constructor
    · rintro ⟨g, hg, rfl⟩
      exact .location h hg
    · rintro (_ | _ | @⟨url', g, h', hg⟩)
      cases h.symm.trans h'
      exact ⟨g, hg, rfl⟩

/-- A lifetime that can be read is a lifetime of 64 bits, and an allowed one is no longer. -/
theorem mem_signed64_of_allowed (h : 1 ≤ n ∧ n ≤ 315360000) : n ∈ Range.signed64 :=
  Range.mem_iff.mpr ⟨by simp only [Range.signed64]; omega, by simp only [Range.signed64]; omega⟩

theorem fails_lifetime_iff {l : Lifetimes.Fault} (h : Holds lookup (.ofLifetime l) n) :
    Fails lookup (.lifetime l) f ↔ ¬ Lifetimes.Allowed n ∧ f = .lifetime l := by
  constructor
  · rintro (_ | _ | _ | @⟨_, n', h', hn⟩)
    obtain ⟨s, hs, hsigned⟩ := h
    obtain ⟨s', hs', hsigned'⟩ := h'
    cases hs.symm.trans hs'
    rw [hsigned.unique hsigned']
    exact ⟨hn, rfl⟩
  · rintro ⟨hn, rfl⟩
    exact .lifetime h hn

theorem fails_cost_iff {cost : UInt32} (h : GivesCost lookup cost) :
    Fails lookup .cost f ↔ ¬ CostAllowed cost ∧ f = .cost cost := by
  constructor
  · rintro (_ | _ | _ | _ | @⟨cost', h', hcost⟩)
    cases (readCost_eq_ok.mpr h).symm.trans (readCost_eq_ok.mpr h')
    exact ⟨hcost, rfl⟩
  · rintro ⟨hcost, rfl⟩
    exact .cost h hcost

theorem fails_durability_iff {e : Environment} {l : Location} (he : GivesEnvironment lookup e)
    (hl : GivesLocation lookup l) :
    Fails lookup .durability f ↔ (e = .production ∧ l = .memory) ∧ f = .memoryInProduction := by
  constructor
  · rintro (_ | _ | _ | _ | _ | ⟨he', hl'⟩)
    refine ⟨⟨?_, ?_⟩, rfl⟩
    · exact (readEnvironment_eq_iff.mpr he).symm.trans (readEnvironment_eq_iff.mpr he')
    · exact Except.ok.inj
        ((readLocation_eq_ok_iff.mpr hl).symm.trans (readLocation_eq_ok_iff.mpr hl'))
  · rintro ⟨⟨rfl, rfl⟩, rfl⟩
    exact .durability he hl

end Parts

/-! ## Loading -/

variable {c : Config} {f : Fault}

/-- Variables are loaded as the configuration that they describe. -/
theorem load_eq_ok_iff : load lookup = .ok c ↔ Describes lookup c := by
  rw [load_eq_ok]
  constructor
  · rintro ⟨⟨access, refresh, haccess, hrefresh, hmake⟩, hport, hlocation, hcost, hhost,
      henvironment, hcheck⟩
    obtain ⟨hallowed, hallowed', hlifetimes⟩ := Lifetimes.make_eq_ok.mp hmake
    obtain ⟨hcostAllowed, hdurable⟩ := check_eq_ok.mp hcheck
    exact {
      access := hlifetimes ▸ (seconds_eq_ok.mp haccess).1
      refresh := hlifetimes ▸ (seconds_eq_ok.mp hrefresh).1
      accessAllowed := hlifetimes ▸ hallowed
      refreshAllowed := hlifetimes ▸ hallowed'
      port := readPort_eq_ok.mp hport
      host := by
        unfold GivesHost Gives
        cases h : lookup "HOST" <;> simp [hhost, h, standardHost]
      location := readLocation_eq_ok_iff.mp hlocation
      cost := readCost_eq_ok.mp hcost
      costAllowed := hcostAllowed
      environment := readEnvironment_eq_iff.mp henvironment.symm
      durable := hdurable }
  · intro h
    refine ⟨⟨c.lifetimes.access, c.lifetimes.refresh, ?_, ?_, ?_⟩, ?_, ?_, ?_, ?_, ?_, ?_⟩
    · exact seconds_eq_ok.mpr ⟨h.access, mem_signed64_of_allowed h.accessAllowed⟩
    · exact seconds_eq_ok.mpr ⟨h.refresh, mem_signed64_of_allowed h.refreshAllowed⟩
    · exact Lifetimes.make_eq_ok.mpr ⟨h.accessAllowed, h.refreshAllowed, rfl⟩
    · exact readPort_eq_ok.mpr h.port
    · exact readLocation_eq_ok_iff.mpr h.location
    · exact readCost_eq_ok.mpr h.cost
    · have hhost := h.host
      unfold GivesHost Gives at hhost
      cases hl : lookup "HOST" <;> simp_all [standardHost]
    · exact (readEnvironment_eq_iff.mpr h.environment).symm
    · exact check_eq_ok.mpr ⟨h.costAllowed, h.durable⟩

/-! ## The first fault -/

section FirstFault

variable {k : Check} {ks : List Check}

theorem error_bind_eq_error {ε α β : Type} {d e : ε} {g : α → Except ε β} :
    (Except.error d >>= g) = .error e ↔ e = d :=
  ⟨fun h ↦ (Except.error.inj h).symm, fun h ↦ congrArg _ h.symm⟩

theorem firstFault_of_passes (h : ∀ g, ¬ Fails lookup k g) :
    FirstFault lookup f (k :: ks) ↔ FirstFault lookup f ks := by
  simp [FirstFault, h]

theorem firstFault_of_fails {e : Fault} (h : ∀ g, Fails lookup k g ↔ g = e) :
    FirstFault lookup f (k :: ks) ↔ f = e := by
  simp [FirstFault, h]

/-- Going on after a check looks for a fault in the later checks. -/
theorem bind_eq_error_iff {α β : Type} {x : Except Fault α} {g : α → Except Fault β}
    (hx : ∀ e, x = .error e ↔ Fails lookup k e)
    (hg : ∀ a, x = .ok a → (g a = .error f ↔ FirstFault lookup f ks)) :
    x >>= g = .error f ↔ FirstFault lookup f (k :: ks) := by
  cases x with
  | error e =>
    have hfails (g : Fault) : Fails lookup k g ↔ g = e := by
      rw [← hx g, Except.error.injEq, eq_comm]
    rw [firstFault_of_fails hfails]
    exact error_bind_eq_error
  | ok a =>
    rw [firstFault_of_passes fun e he ↦ nomatch (hx e).mpr he]
    exact hg a rfl

theorem make_bind_eq_error {access refresh : Int} {β : Type} {g : Lifetimes → Except Fault β}
    (haccess : Holds lookup .access access) (hrefresh : Holds lookup .refresh refresh)
    (hg : ∀ l, (g l = .error f ↔ FirstFault lookup f ks)) :
    (Lifetimes.make access refresh).mapError .lifetime >>= g = .error f ↔
      FirstFault lookup f (.lifetime .access :: .lifetime .refresh :: ks) := by
  have hfirst (e : Fault) := fails_lifetime_iff (f := e) (l := .access) haccess
  have hsecond (e : Fault) := fails_lifetime_iff (f := e) (l := .refresh) hrefresh
  unfold Lifetimes.make
  by_cases ha : Lifetimes.Allowed access
  · rw [firstFault_of_passes fun e he ↦ ((hfirst e).mp he).1 ha, if_neg (not_not_intro ha)]
    by_cases hr : Lifetimes.Allowed refresh
    · rw [firstFault_of_passes fun e he ↦ ((hsecond e).mp he).1 hr, if_neg (not_not_intro hr)]
      exact hg _
    · rw [firstFault_of_fails fun e ↦ (hsecond e).trans (and_iff_right hr), if_pos hr]
      exact error_bind_eq_error
  · rw [firstFault_of_fails fun e ↦ (hfirst e).trans (and_iff_right ha), if_pos ha]
    exact error_bind_eq_error

theorem check_bind_eq_error {β : Type} {b : β} (hcost : GivesCost lookup c.cost)
    (he : GivesEnvironment lookup c.environment) (hl : GivesLocation lookup c.location) :
    (c.check >>= fun _ ↦ .ok b) = .error f ↔ FirstFault lookup f [.cost, .durability] := by
  have hfirst (e : Fault) := fails_cost_iff (f := e) hcost
  have hsecond (e : Fault) := fails_durability_iff (f := e) he hl
  unfold check
  by_cases ha : CostAllowed c.cost
  · rw [firstFault_of_passes fun e he ↦ ((hfirst e).mp he).1 ha, if_neg (not_not_intro ha)]
    by_cases hm : c.environment = .production ∧ c.location = .memory
    · rw [firstFault_of_fails fun e ↦ (hsecond e).trans (and_iff_right hm),
        if_pos (by simp [Environment.isProduction, Location.isMemory, hm])]
      exact error_bind_eq_error
    · rw [firstFault_of_passes fun e he ↦ hm ((hsecond e).mp he).1,
        if_neg (by simpa [Environment.isProduction, Location.isMemory] using hm)]
      refine iff_of_false (fun h ↦ ?_) id
      cases h
  · rw [firstFault_of_fails fun e ↦ (hfirst e).trans (and_iff_right ha), if_pos ha]
    exact error_bind_eq_error

/-- What is not loaded has the fault of the first check that fails. -/
theorem load_eq_error_iff : load lookup = .error f ↔ FirstFault lookup f Check.order := by
  unfold load Check.order
  refine bind_eq_error_iff (fun _ ↦ seconds_eq_error (.inl rfl)) fun access haccess ↦ ?_
  refine bind_eq_error_iff (fun _ ↦ seconds_eq_error (.inr rfl)) fun refresh hrefresh ↦ ?_
  refine bind_eq_error_iff (fun _ ↦ readPort_eq_error) fun port hport ↦ ?_
  refine bind_eq_error_iff (fun _ ↦ readLocation_eq_error) fun location hlocation ↦ ?_
  refine make_bind_eq_error (seconds_eq_ok.mp haccess).1 (seconds_eq_ok.mp hrefresh).1 fun l ↦ ?_
  refine bind_eq_error_iff (fun _ ↦ readCost_eq_error) fun cost hcost ↦ ?_
  exact check_bind_eq_error (readCost_eq_ok.mp hcost) (readEnvironment_eq_iff.mp rfl)
    (readLocation_eq_ok_iff.mp hlocation)

/-- A port with a blank before it is found before a lifetime and a work factor out of bounds. -/
example :
    load (List.lookup · [("ACCESS_TOKEN_LIFETIME", " 0 "), ("REFRESH_TOKEN_LIFETIME", "+60"),
      ("HTTP_PORT", " 80"), ("BCRYPT_COST", "3")]) = .error (.number .port .invalidDigit) := by
  decide +kernel

end FirstFault

/-- Of all variables, exactly those are loaded that describe a configuration, and it is this one
that is loaded: the lifetimes are integers within their bounds, blanks around them apart; the port
and the work factor, if they are there, are numbers within theirs, with nothing around them; the
location, if it is there, is one; and no server in production has its database in memory.  From all
others comes the fault of the first check that fails. -/
theorem load_exactly (lookup : String → Option String) :
    (∀ c, load lookup = .ok c ↔ Describes lookup c) ∧
      ∀ f, load lookup = .error f ↔ FirstFault lookup f Check.order :=
  ⟨fun _ ↦ load_eq_ok_iff, fun _ ↦ load_eq_error_iff⟩

end Config
end TokenMint
