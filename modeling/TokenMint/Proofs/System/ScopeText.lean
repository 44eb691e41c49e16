import TokenMint.Proofs.Store.Grants
import TokenMint.Proofs.System.Agreement
import TokenMint.Proofs.Text.Words

/-! # The text that tells the scopes

A response tells the scopes of its access token in one text, the names with a blank between each
two.  Nobody looks at a name before a scope is added, so a name can be empty, or hold a blank; then
the text tells something else.  As long as all names are words, a client that cuts the text at its
blanks has the scopes that have been granted: `System.scope_text_names_grants`. -/

namespace TokenMint

open Store (Tables)

/-- Whether any scope that an event adds has a name of some kind. -/
def Event.NamesScopes (P : String → Prop) : Event → Prop
  | .administer (.createScope name _) _ => P name
  | _ => True

/-- The names of scopes are those under which they have been added. -/
theorem Entry.Tells.scope_names {x : Entry} {t t' : Tables} {P : String → Prop} (hx : x.Tells t t')
    (h : ∀ s ∈ t.scopes.rows, P s.name)
    (hadd : ∀ name isDefault r, x = .act (.createScope name isDefault) r → P name) :
    ∀ s ∈ t'.scopes.rows, P s.name := by
  intro s hs
  cases hx with
  | idle t => exact h s hs
  | addUser ht =>
    obtain ⟨-, -, rfl⟩ := Tables.addUser_eq_ok ht
    exact h s hs
  | addClient ht =>
    obtain ⟨-, -, rfl⟩ := Tables.addClient_eq_ok ht
    exact h s hs
  | addScope ht =>
    obtain ⟨-, -, rfl⟩ := Tables.addScope_eq_ok ht
    rcases List.mem_append.mp hs with hs | hs
    · exact h s hs
    · rw [List.mem_singleton.mp hs]
      exact hadd _ _ _ rfl
  | remove t n id => exact h s (Tables.mem_remove_scopes.mp hs).1
  | store _ ht =>
    rw [ht.principals_eq.2.2] at hs
    exact h s hs

namespace System

variable {env : Surroundings} {lifetimes : Lifetimes} {σ : System}

/-- All scopes have names of a kind if only such scopes have been added. -/
theorem run_scope_names (env : Surroundings) (lifetimes : Lifetimes) {P : String → Prop}
    {events : List Event} (h : ∀ e ∈ events, e.NamesScopes P) :
    ∀ s ∈ (run env lifetimes events).tables.scopes.rows, P s.name := by
  refine run_induction (P := fun σ ↦ ∀ s ∈ σ.tables.scopes.rows, P s.name) nofun
    (fun σ e he ih ↦ ?_) events h
  rcases σ.step_tells env lifetimes e with ⟨-, htables⟩ | ⟨x, hlog, hx⟩
  · rw [htables]
    exact ih
  · refine hx.scope_names ih fun name isDefault r hact ↦ ?_
    obtain ⟨o, rfl, -⟩ := step_act (hact ▸ hlog)
    exact he

/-- A request that succeeds is told the scopes to which its access token is linked, and these are
the default scopes in the order of their names. -/
theorem Recorded.ask_scopes (h : σ.Recorded env lifetimes) {i : Nat} {th th' : Thread} {o : Outage}
    {res : TokenResponse} (hth : σ.threads[i]? = some th) (hasks : th.answer? = none)
    (hth' : (σ.step env lifetimes (.ask i o)).threads[i]? = some th')
    (hdone : th'.answer? = some (.ok res)) :
    let t := (σ.step env lifetimes (.ask i o)).tables
    Tables.Ascending (t.scopesOf res.id) ∧
      (∀ s, s ∈ t.scopesOf res.id ↔ ∃ row ∈ t.scopes.rows, row.isDefault ∧ row.name = s) ∧
        res.scope = Text.join " " (t.scopesOf res.id) := by
  obtain ⟨th'', hth'', -, -, hok, -⟩ := h.ask_stores hth hasks o
  rw [hth'] at hth''
  cases hth''
  obtain ⟨p, -, hstores, rfl⟩ := hok res hdone
  intro t
  have hread : t.scopesOf p.2.accessTokenId = σ.tables.defaultScopes.map (·.name) := by
    rw [hstores.scopesOf_eq h.integrity, hstores.scopes_eq]
  change Tables.Ascending (t.scopesOf p.2.accessTokenId) ∧
    (∀ s, s ∈ t.scopesOf p.2.accessTokenId ↔ _) ∧
      Text.join " " (p.2.scopes.map (·.name)) = Text.join " " (t.scopesOf p.2.accessTokenId)
  rw [hread, hstores.scopes_eq]
  refine ⟨h.integrity.ascending_defaultScopes, fun s ↦ ?_, rfl⟩
  rw [show t.scopes = σ.tables.scopes from hstores.principals_eq.2.2]
  simp [Tables.mem_defaultScopes, and_assoc]

/-- The text in a response tells the scopes that have been granted as long as their names are words.
When a request succeeds, its access token is linked to the default scopes; the text holds their
names in the order of their bytes, each once.  Cut at its blanks it gives back these names exactly
if all of them are words, and then it has no blank at either end.  This is so in particular if no
scope has been added under any other name. -/
theorem scope_text_names_grants (env : Surroundings) (lifetimes : Lifetimes)
    (events : List Event) :
    let σ := run env lifetimes events
    ∀ i o th th' res, σ.threads[i]? = some th → th.answer? = none →
      (σ.step env lifetimes (.ask i o)).threads[i]? = some th' → th'.answer? = some (.ok res) →
      let t := (σ.step env lifetimes (.ask i o)).tables
      let names := t.scopesOf res.id
      (Tables.Ascending names ∧
        (∀ s, s ∈ names ↔ ∃ row ∈ t.scopes.rows, row.isDefault ∧ row.name = s) ∧
          res.scope = Text.join " " names) ∧
      (Text.words res.scope = names ↔ ∀ n ∈ names, Text.IsWord n) ∧
      ((∀ n ∈ names, Text.IsWord n) → Text.Unpadded res.scope) ∧
      ((∀ e ∈ events, e.NamesScopes Text.IsWord) →
        Text.words res.scope = names ∧ Text.Unpadded res.scope) := by
  intro σ i o th th' res hth hasks hth' hdone t names
  have h : σ.Recorded env lifetimes := .run env lifetimes events
  obtain ⟨hascending, hdefault, hjoin⟩ := h.ask_scopes hth hasks hth' hdone
  have hwords : Text.words res.scope = names ↔ ∀ n ∈ names, Text.IsWord n := by
    rw [hjoin]
    exact Text.words_join_iff
  have hunpadded : (∀ n ∈ names, Text.IsWord n) → Text.Unpadded res.scope := by
    rw [hjoin]
    exact Text.unpadded_join
  refine ⟨⟨hascending, hdefault, hjoin⟩, hwords, hunpadded, fun hevents ↦ ?_⟩
  have hevents' : ∀ e ∈ events ++ [.ask i o], e.NamesScopes Text.IsWord := by
    intro e he
    rcases List.mem_append.mp he with he | he
    · exact hevents e he
    · rw [List.mem_singleton.mp he]
      trivial
  have hrows : ∀ s ∈ t.scopes.rows, Text.IsWord s.name := by
    have hscopes := run_scope_names env lifetimes hevents'
    rwa [run_concat] at hscopes
  have hnames : ∀ n ∈ names, Text.IsWord n := by
    intro n hn
    obtain ⟨row, hrow, -, rfl⟩ := (hdefault n).mp hn
    exact hrows row hrow
  exact ⟨hwords.mpr hnames, hunpadded hnames⟩

/-- There is a default scope, and a user has a pair all but stored. -/
def oneDefault (name : String) : List Event :=
  [.administer (.createUser "ann" "secret") {}, .administer (.createScope name true) {},
    .arrive none { grantType := "password", username := some "ann", password := some "secret" }] ++
  List.replicate 5 (.ask 0 {})

/-- A scope with a word for a name is told by that word. -/
theorem scope_text_names_grants_read :
    let σ := run .counting ⟨60, 3600⟩ (oneDefault "read")
    let σ' := σ.step .counting ⟨60, 3600⟩ (.ask 0 {})
    (∀ e ∈ oneDefault "read", e.NamesScopes Text.IsWord) ∧
      ∃ th th' res, σ.threads[0]? = some th ∧ th.answer? = none ∧ σ'.threads[0]? = some th' ∧
        th'.answer? = some (.ok res) ∧ σ'.tables.scopesOf res.id = ["read"] ∧
          Text.words res.scope = ["read"] ∧ Text.Unpadded res.scope := by
  intro σ σ'
  have hevents : ∀ e ∈ oneDefault "read", e.NamesScopes Text.IsWord := by
    simp [oneDefault, Event.NamesScopes, Text.IsWord]
  have hasks : σ.threads[0]?.map (·.answer?) = some none := by decide +kernel
  have hanswer : σ'.threads[0]?.bind (·.answer?) =
      some (.ok ⟨1, "aa", 60, "Bearer", "read", "a"⟩) := by decide +kernel
  have hlinked : σ'.tables.scopesOf 1 = ["read"] := by decide +kernel
  obtain ⟨th, hth, hasks⟩ := Option.map_eq_some_iff.mp hasks
  obtain ⟨th', hth', hdone⟩ := Option.bind_eq_some_iff.mp hanswer
  obtain ⟨-, -, -, htold⟩ := scope_text_names_grants .counting ⟨60, 3600⟩ (oneDefault "read") 0 {}
    th th' _ hth hasks hth' hdone
  obtain ⟨hwords, hunpadded⟩ := htold hevents
  exact ⟨hevents, th, th', _, hth, hasks, hth', hdone, hlinked, hwords.trans hlinked, hunpadded⟩

/-- A blank that is part of a name is no part of any word. -/
theorem scope_text_loses_blank :
    ¬ ∀ (env : Surroundings) (lifetimes : Lifetimes) (events : List Event) (i : Nat) (o : Outage)
        (th th' : Thread) (res : TokenResponse),
      let σ := run env lifetimes events
      let σ' := σ.step env lifetimes (.ask i o)
      σ.threads[i]? = some th → th.answer? = none → σ'.threads[i]? = some th' →
        th'.answer? = some (.ok res) →
          Text.Unpadded res.scope ∧ Text.words res.scope = σ'.tables.scopesOf res.id := by
  intro hall
  let σ := run .counting ⟨60, 3600⟩ (oneDefault " read")
  let σ' := σ.step .counting ⟨60, 3600⟩ (.ask 0 {})
  have hasks : σ.threads[0]?.map (·.answer?) = some none := by decide +kernel
  have hanswer : σ'.threads[0]?.bind (·.answer?) =
      some (.ok ⟨1, "aa", 60, "Bearer", " read", "a"⟩) := by decide +kernel
  obtain ⟨th, hth, hasks⟩ := Option.map_eq_some_iff.mp hasks
  obtain ⟨th', hth', hdone⟩ := Option.bind_eq_some_iff.mp hanswer
  obtain ⟨hunpadded, -⟩ := hall _ _ _ 0 {} th th' _ hth hasks hth' hdone
  revert hunpadded
  decide

end System

end TokenMint
