import TokenMint.Proofs.Grant.Entitlement
import TokenMint.Proofs.Store.Ledger
import TokenMint.Proofs.System.Run

/-! # The dialogues of a run

However the turns of many requests are mixed, those of one request are a dialogue of its own
program: what is true of any request on its own is true of it in a run.  Fresh tokens are drawn one
after the other, whoever asks for them, and a refresh token that has been found has been stored. -/

namespace TokenMint

open Store (Ledger)

/-! ## What the log tells -/

/-- The turn that a request has taken by a line of the log. -/
def Entry.turnOf? (i : Nat) : Entry → Option Turn
  | .turn j u => if j = i then some u else none
  | .act _ _ => none

/-- The token that has been drawn by a line of the log. -/
def Entry.fresh? : Entry → Option String
  | .turn _ ⟨.freshToken, token⟩ => some token
  | _ => none

theorem Entry.stored?_turn {i : Nat} {u : Turn} : (Entry.turn i u).stored? = u.stored? := by
  obtain ⟨c, r⟩ := u
  cases c <;> rfl

theorem Entry.stored?_eq_some {e : Entry} {p : NewPair × IssuedPair} :
    e.stored? = some p ↔ (∃ i, e = .turn i ⟨.storePair p.1, .ok p.2⟩) ∨
      e = .act (.storePair p.1) (.ok p.2) := by
  constructor
  · intro h
    rcases e with ⟨i, c, r⟩ | ⟨a, r⟩
    · cases c with
      | storePair pair =>
        obtain ⟨issued, hr, rfl⟩ := Option.map_eq_some_iff.mp h
        cases r with
        | error e => cases hr
        | ok issued =>
          cases hr
          exact .inl ⟨i, rfl⟩
      | _ => cases h
    · cases a with
      | storePair pair =>
        obtain ⟨issued, hr, rfl⟩ := Option.map_eq_some_iff.mp h
        cases r with
        | error e => cases hr
        | ok issued =>
          cases hr
          exact .inr rfl
      | _ => cases h
  · rintro (⟨i, rfl⟩ | rfl)
    · rfl
    · rfl

theorem Entry.turnOf?_eq_some {i : Nat} {e : Entry} {u : Turn} :
    e.turnOf? i = some u ↔ e = .turn i u := by
  rcases e with ⟨j, v⟩ | ⟨a, r⟩ <;> simp [turnOf?]

namespace System

variable {env : Surroundings} {lifetimes : Lifetimes} {σ : System}

/-- The turns that a request has taken. -/
def turns (σ : System) (i : Nat) : List Turn := σ.log.filterMap (Entry.turnOf? i)

theorem mem_turns {i : Nat} {u : Turn} : u ∈ σ.turns i ↔ .turn i u ∈ σ.log := by
  simp [turns, Entry.turnOf?_eq_some]

/-- A turn of a request stands in the log, after the turns that the request has taken before. -/
theorem exists_log_of_turns {i : Nat} {t₁ t₂ : List Turn} {u : Turn}
    (h : σ.turns i = t₁ ++ u :: t₂) :
    ∃ l₁ l₂, σ.log = l₁ ++ .turn i u :: l₂ ∧ l₁.filterMap (Entry.turnOf? i) = t₁ := by
  obtain ⟨l₁, l₂, hlog, h₁, h₂⟩ := List.filterMap_eq_append_iff.mp h
  obtain ⟨m₁, x, m₂, rfl, hnone, hx, -⟩ := List.filterMap_eq_cons_iff.mp h₂
  obtain rfl := Entry.turnOf?_eq_some.mp hx
  have hm₁ : m₁.filterMap (Entry.turnOf? i) = [] := List.filterMap_eq_nil_iff.mpr hnone
  exact ⟨l₁ ++ m₁, m₂, by simp [hlog], by rw [List.filterMap_append, h₁, hm₁, List.append_nil]⟩

theorem mem_stored {p : NewPair × IssuedPair} :
    p ∈ σ.stored ↔ (∃ i, .turn i ⟨.storePair p.1, .ok p.2⟩ ∈ σ.log) ∨
      .act (.storePair p.1) (.ok p.2) ∈ σ.log := by
  unfold stored
  rw [List.mem_filterMap]
  constructor
  · rintro ⟨e, he, h⟩
    rcases Entry.stored?_eq_some.mp h with ⟨i, rfl⟩ | rfl
    · exact .inl ⟨i, he⟩
    · exact .inr he
  · rintro (⟨i, h⟩ | h)
    · exact ⟨_, h, rfl⟩
    · exact ⟨_, h, rfl⟩

/-- A request has had a pair stored. -/
def Obtains (σ : System) (i : Nat) (p : NewPair × IssuedPair) : Prop :=
  .turn i ⟨.storePair p.1, .ok p.2⟩ ∈ σ.log

theorem Obtains.mem_stored {i : Nat} {p : NewPair × IssuedPair} (h : σ.Obtains i p) :
    p ∈ σ.stored :=
  System.mem_stored.mpr (.inl ⟨i, h⟩)

/-- A turn counts for the request that takes it. -/
theorem turns_concat {σ' : System} {i : Nat} {u : Turn} (h : σ'.log = σ.log ++ [.turn i u])
    (j : Nat) : σ'.turns j = σ.turns j ++ if i = j then [u] else [] := by
  unfold turns
  rw [h, filterMap_concat]
  by_cases hij : i = j
  · simp [Entry.turnOf?, hij]
  · simp [Entry.turnOf?, hij]

theorem turns_eq_nil {i : Nat} (h : ∀ u, .turn i u ∉ σ.log) : σ.turns i = [] :=
  List.eq_nil_iff_forall_not_mem.mpr fun u hu ↦ h u (mem_turns.mp hu)

end System

/-! ## Replies -/

namespace Service

variable (env : Surroundings) (o : Outage) (s : Service)

/-- Fresh tokens come in the order of their source. -/
theorem answer_fresh (i : Nat) (c : Call) :
    (List.range s.drawn).map env.token ++ (Entry.turn i ⟨c, (s.answer env o c).1⟩).fresh?.toList =
      (List.range (s.answer env o c).2.drawn).map env.token := by
  cases c with
  | freshToken =>
    change _ = (List.range (s.drawn + 1)).map env.token
    rw [List.range_succ, List.map_append]
    rfl
  | placeholder =>
    change _ ++ [] = (List.range (s.obtainPlaceholder env).2.drawn).map env.token
    rw [obtainPlaceholder_eq, List.append_nil]
  | _ => exact List.append_nil _

theorem look_eq_ok {α : Type} {what : String} {q : Store.Query α} {a : α} :
    s.look o what q = .ok a ↔ o.query = none ∧ q s.database = .ok a := by
  unfold look Store.Database.look
  cases o.query with
  | some f => simp
  | none => cases h : q s.database <;> simp [h]

/-- A refresh token is found if it has a row. -/
theorem answer_refreshToken {token : String} {found : RefreshToken}
    (h : (s.answer env o (.refreshToken token)).1 = .ok (some found)) :
    ∃ r ∈ s.database.tables.refreshTokens.rows, r.token = token ∧ r.id = found.id := by
  obtain ⟨-, hq⟩ := (s.look_eq_ok o).mp h
  obtain ⟨r, hr, htoken, hread⟩ := Store.Database.refreshToken?_eq_ok hq
  exact ⟨r, hr, htoken, (Store.RefreshRow.token?_eq_some.mp hread).1⟩

/-- An access token is found by its refresh token, and with the owner that its row records. -/
theorem answer_accessToken {id : Int} {found : AccessToken}
    (h : (s.answer env o (.accessToken id)).1 = .ok (some found)) :
    ∃ a ∈ s.database.tables.accessTokens.rows, a.refreshTokenId = id ∧
      a.clientId = found.clientId ∧ a.userId = found.userId := by
  obtain ⟨-, hq⟩ := (s.look_eq_ok o).mp h
  obtain ⟨a, ha, hid, hread⟩ := Store.Database.accessToken?_eq_ok hq
  obtain ⟨-, -, -, hclient, huser, -⟩ := Store.AccessRow.token?_eq_some.mp hread
  exact ⟨a, ha, hid, hclient, huser⟩

end Service

/-! ## What every run keeps -/

namespace System

variable {env : Surroundings} {lifetimes : Lifetimes} {σ : System}

/-- The log of a run tells what its requests have been through. -/
structure Recorded (env : Surroundings) (lifetimes : Lifetimes) (σ : System) : Prop where
  integrity : σ.tables.Integrity
  ledger : Ledger σ.tables σ.stored
  /-- What is left of a request is what its turns lead to. -/
  leads : ∀ i th, σ.threads[i]? = some th →
    (Endpoint.token lifetimes th.basic th.request).Leads (σ.turns i) th.rest
  /-- Only requests that have arrived take turns. -/
  arrived : ∀ i u, .turn i u ∈ σ.log → i < σ.threads.length
  /-- All tokens drawn are different ones from the source. -/
  fresh : σ.log.filterMap Entry.fresh? = (List.range σ.service.drawn).map env.token
  /-- A refresh token that has been found has been stored, under the number found. -/
  found : ∀ i token found, .turn i ⟨.refreshToken token, .ok (some found)⟩ ∈ σ.log →
    ∃ p ∈ σ.stored, p.1.refreshToken = token ∧ p.2.refreshTokenId = found.id

namespace Recorded

theorem start {db : Store.Database} (hi : db.tables.Integrity)
    (hr : db.tables.refreshTokens.rows = []) (ha : db.tables.accessTokens.rows = []) :
    (System.on db).Recorded env lifetimes where
  integrity := hi
  ledger := .empty hr ha
  leads _ _ h := by cases h
  arrived _ _ h := absurd h List.not_mem_nil
  fresh := rfl
  found _ _ _ h := absurd h List.not_mem_nil

theorem arrive (h : σ.Recorded env lifetimes) (basic : Option Credentials)
    (request : TokenRequest) :
    (σ.step env lifetimes (.arrive basic request)).Recorded env lifetimes where
  integrity := h.integrity
  ledger := h.ledger
  leads := by
    intro i th hth
    change (σ.threads ++ [_])[i]? = some th at hth
    rcases Nat.lt_trichotomy i σ.threads.length with hi | rfl | hi
    · rw [List.getElem?_append_left hi] at hth
      exact h.leads i th hth
    · rw [List.getElem?_concat_length] at hth
      cases hth
      have hnil : σ.turns σ.threads.length = [] :=
        turns_eq_nil fun u hu ↦ Nat.lt_irrefl _ (h.arrived _ u hu)
      change Program.Leads _ (σ.turns _) _
      rw [hnil]
      exact .refl _
    · rw [List.getElem?_eq_none (by simpa using Nat.succ_le_of_lt hi)] at hth
      cases hth
  arrived := by
    intro i u hu
    change i < (σ.threads ++ [_]).length
    rw [List.length_append]
    exact Nat.lt_add_right _ (h.arrived i u hu)
  fresh := h.fresh
  found := h.found

theorem ask (h : σ.Recorded env lifetimes) (i : Nat) (o : Outage) :
    (σ.step env lifetimes (.ask i o)).Recorded env lifetimes := by
  obtain ⟨stored, hm, hstored⟩ := σ.step_moves env lifetimes (.ask i o)
  have hledger := h.ledger.moves hm
  rw [← hstored] at hledger
  rcases σ.step_ask i o with hstep | ⟨basic, request, c, next, hth, hstep⟩
  · rw [hstep]
    exact h
  · refine ⟨h.integrity.moves hm, hledger, ?_, ?_, ?_, ?_⟩
    · intro j th hj
      rw [turns_concat (congrArg log hstep)]
      rw [hstep] at hj
      by_cases hij : i = j
      · subst hij
        rw [List.getElem?_set_self (List.getElem?_eq_some_iff.mp hth).1] at hj
        cases hj
        rw [if_pos rfl]
        exact (h.leads i _ hth).turn _
      · rw [List.getElem?_set_ne hij] at hj
        rw [if_neg hij, List.append_nil]
        exact h.leads j th hj
    · intro j u hu
      rw [hstep] at hu ⊢
      change j < (σ.threads.set i _).length
      rw [List.length_set]
      rcases List.mem_append.mp hu with hu | hu
      · exact h.arrived j u hu
      · cases List.mem_singleton.mp hu
        exact (List.getElem?_eq_some_iff.mp hth).1
    · rw [hstep]
      change (σ.log ++ [_]).filterMap _ = _
      rw [filterMap_concat, h.fresh]
      exact σ.service.answer_fresh env o i c
    · intro j token found hmem
      rw [hstored]
      rw [hstep] at hmem
      rcases List.mem_append.mp hmem with hmem | hmem
      · obtain ⟨p, hp, htoken, hid⟩ := h.found j token found hmem
        exact ⟨p, List.mem_append_left _ hp, htoken, hid⟩
      · simp only [List.mem_singleton, Entry.turn.injEq, Turn.mk.injEq] at hmem
        obtain ⟨rfl, rfl, hreply⟩ := hmem
        obtain ⟨r, hr, rfl, hid⟩ := σ.service.answer_refreshToken env o (eq_of_heq hreply).symm
        obtain ⟨p, hp, rfl⟩ := h.ledger.refreshRows r hr
        exact ⟨p, List.mem_append_left _ hp, rfl, hid⟩

theorem administer (h : σ.Recorded env lifetimes) (a : Act) (o : Outage) :
    (σ.step env lifetimes (.administer a o)).Recorded env lifetimes := by
  obtain ⟨stored, hm, hstored⟩ := σ.step_moves env lifetimes (.administer a o)
  have hledger := h.ledger.moves hm
  rw [← hstored] at hledger
  have hturns (i : Nat) : (σ.step env lifetimes (.administer a o)).turns i = σ.turns i :=
    (filterMap_concat ..).trans (List.append_nil _)
  have hold {i : Nat} {u : Turn}
      (hu : Entry.turn i u ∈ (σ.step env lifetimes (.administer a o)).log) :
      Entry.turn i u ∈ σ.log := by
    rw [← mem_turns, hturns] at hu
    exact mem_turns.mp hu
  refine ⟨h.integrity.moves hm, hledger, ?_, fun i u hu ↦ h.arrived i u (hold hu), ?_, ?_⟩
  · intro i th hth
    rw [hturns]
    exact h.leads i th hth
  · exact (filterMap_concat ..).trans ((List.append_nil _).trans h.fresh)
  · intro i token found hmem
    obtain ⟨p, hp, htoken, hid⟩ := h.found i token found (hold hmem)
    rw [hstored]
    exact ⟨p, List.mem_append_left _ hp, htoken, hid⟩

/-- Every event keeps what the log tells. -/
theorem step (h : σ.Recorded env lifetimes) (e : Event) :
    (σ.step env lifetimes e).Recorded env lifetimes := by
  cases e with
  | arrive basic request => exact h.arrive basic request
  | ask i o => exact h.ask i o
  | administer a o => exact h.administer a o

theorem run (env : Surroundings) (lifetimes : Lifetimes) (events : List Event) :
    (System.run env lifetimes events).Recorded env lifetimes :=
  run_induction (P := (Recorded env lifetimes ·)) (A := fun _ ↦ True) (start .empty rfl rfl)
    (fun _ e _ h ↦ h.step e) events fun _ _ ↦ trivial

/-! ## Requests that have been answered -/

variable {i : Nat}

/-- Behind a successful answer there is an entitlement, and a pair that has been stored for it. -/
theorem issued (h : σ.Recorded env lifetimes) {th : Thread} (hth : σ.threads[i]? = some th)
    {res : TokenResponse} (hdone : th.answer? = some (.ok res)) :
    ∃ t pair now issued, σ.turns i = t ++ Endpoint.issuing pair now (.ok issued) ∧
      Endpoint.Entitles th.basic th.request t pair.owner pair.supersedes ∧
        res = issued.response lifetimes pair := by
  have hleads := h.leads i th hth
  rw [Thread.answer?_eq_some.mp hdone] at hleads
  exact (Endpoint.leads_token hleads).of_ok

/-- A request that has had a pair stored was entitled to it, and has been answered with it. -/
theorem concluded (h : σ.Recorded env lifetimes) {p : NewPair × IssuedPair}
    (hmem : σ.Obtains i p) :
    ∃ th t now, σ.threads[i]? = some th ∧ σ.turns i = t ++ Endpoint.issuing p.1 now (.ok p.2) ∧
      Endpoint.Entitles th.basic th.request t p.1.owner p.1.supersedes ∧
        th.answer? = some (.ok (p.2.response lifetimes p.1)) := by
  have hth := List.getElem?_eq_getElem (h.arrived i _ hmem)
  have hleads := h.leads i _ hth
  have hin := mem_turns.mpr hmem
  obtain ⟨t₁, t₂, hsplit⟩ := List.append_of_mem hin
  have hlast := hleads
  rw [hsplit] at hlast
  -- a request that has stored a pair is done
  obtain ⟨-, -, a, hdone⟩ := Endpoint.token_last hlast trivial
  rw [hdone] at hleads
  obtain ⟨t, now, hturns, he, rfl⟩ := (Endpoint.leads_token hleads).of_mem hin
  exact ⟨_, t, now, hth, hturns, he, Thread.answer?_eq_some.mpr hdone⟩

/-- Behind a pair that a request has stored there is its entitlement. -/
theorem entitled (h : σ.Recorded env lifetimes) {p : NewPair × IssuedPair} (hmem : σ.Obtains i p) :
    ∃ th t now, σ.threads[i]? = some th ∧ σ.turns i = t ++ Endpoint.issuing p.1 now (.ok p.2) ∧
      Endpoint.Entitles th.basic th.request t p.1.owner p.1.supersedes := by
  obtain ⟨th, t, now, hth, hturns, he, -⟩ := h.concluded hmem
  exact ⟨th, t, now, hth, hturns, he⟩

/-- A pair that replaces another has been stored by a refresh, which has found the refresh token to
be replaced, and the owner in the access token that goes with it. -/
theorem replaced (h : σ.Recorded env lifetimes) {q : NewPair × IssuedPair} (hq : σ.Obtains i q)
    {id : Int} (hs : q.1.supersedes = some id) :
    ∃ th found access, σ.threads[i]? = some th ∧
      th.request.grantType = GrantType.refreshToken.name ∧ found.id = id ∧
        .turn i ⟨.refreshToken (th.request.refreshToken.getD ""), .ok (some found)⟩ ∈ σ.log ∧
          .turn i ⟨.accessToken id, .ok (some access)⟩ ∈ σ.log ∧
            access.clientId = q.1.owner.clientId? ∧ access.userId = q.1.owner.userId? ∧
              th.answer? = some (.ok (q.2.response lifetimes q.1)) := by
  obtain ⟨th, t, now, hth, hturns, he, hdone⟩ := h.concluded hq
  generalize howner : q.1.owner = owner at he
  generalize hid : q.1.supersedes = supersedes at he
  rw [hs] at hid
  cases he with
  | password => cases hid
  | clientCredentials => cases hid
  | @refreshToken found access n _ hg _ hc hu =>
    obtain rfl := Option.some_inj.mp hid
    refine ⟨th, found, access, hth, hg, rfl, ?_, ?_, hc, hu, hdone⟩
    · rw [← mem_turns, hturns]
      simp
    · rw [← mem_turns, hturns]
      simp

/-- A refresh that succeeds has had a pair stored in place of the one with the presented token. -/
theorem refreshed (h : σ.Recorded env lifetimes) {th : Thread} (hth : σ.threads[i]? = some th)
    (hgrant : th.request.grantType = GrantType.refreshToken.name) {res : TokenResponse}
    (hdone : th.answer? = some (.ok res)) :
    ∃ p ∈ σ.stored, ∃ q, σ.Obtains i q ∧ p.1.refreshToken = th.request.refreshToken.getD "" ∧
      q.1.supersedes = some p.2.refreshTokenId ∧ res = q.2.response lifetimes q.1 := by
  obtain ⟨t, pair, now, issued, hturns, he, rfl⟩ := h.issued hth hdone
  have hq : σ.Obtains i (pair, issued) := by
    rw [Obtains, ← mem_turns, hturns]
    simp [Endpoint.issuing]
  have hsome : pair.supersedes ≠ none := by
    rw [ne_eq, he.supersedes_eq_none_iff, hgrant]
    decide
  obtain ⟨id, hid⟩ := Option.ne_none_iff_exists'.mp hsome
  obtain ⟨th', found, -, hth', -, rfl, hfound, -⟩ := h.replaced hq hid
  rw [hth] at hth'
  cases hth'
  obtain ⟨p, hp, htoken, hsame⟩ := h.found i _ found hfound
  exact ⟨p, hp, (pair, issued), hq, htoken, hsame ▸ hid, rfl⟩

end Recorded

end System

end TokenMint
