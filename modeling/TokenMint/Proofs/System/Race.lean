import TokenMint.Proofs.System.Validity

/-! # Races for a refresh token

Any number of requests present the same refresh token, and nothing else happens and nothing fails.
However their questions are mixed, one of them replaces the pair, and every other is overtaken by it
at one of three moments: before it looks for the refresh token, between its two look-ups, or after
both.  The first and the last end in the same failure, the second in another. -/

namespace TokenMint

open Store (Database Tables mem_superseded superseded)

/-- In a race for a refresh token requests arrive with it, and those that have arrived ask, without
anything failing. -/
inductive Event.Races (token : String) (first : Nat) : Event → Prop
  | arrive {basic : Option Credentials} {request : TokenRequest}
    (hg : request.grantType = GrantType.refreshToken.name)
    (ht : request.refreshToken.getD "" = token) : Races token first (.arrive basic request)
  | ask {i : Nat} (hi : first ≤ i) : Races token first (.ask i {})

namespace Event.Races

variable {env : Surroundings} {lifetimes : Lifetimes} {σ : System} {token : String} {first : Nat}
  {e : Event}

theorem not_putsPair (h : e.Races token first) : ¬ e.putsPair := by
  cases h <;> exact Bool.false_ne_true

theorem closed_step (h : e.Races token first) :
    (σ.step env lifetimes e).service.database.closed = σ.service.database.closed := by
  cases h with
  | arrive => rfl
  | @ask i =>
    obtain ⟨tables, hdb⟩ := σ.ask_database i {}
    rw [hdb]

/-- Nothing is deleted on its own account. -/
theorem deletions_step (h : e.Races token first) {y : Store.TableName × Int}
    (hy : y ∈ (σ.step env lifetimes e).deletions) : y ∈ σ.deletions := by
  rcases System.step_deletions hy with hy | ⟨o, rfl⟩
  · exact hy
  · cases h

end Event.Races

namespace System

variable {env : Surroundings} {lifetimes : Lifetimes} {σ : System} {p : NewPair × IssuedPair}

/-! ## A pair while it is raced for -/

/-- Nothing has been deleted on which the rows of a pair stand, and nothing stands in the way of
statements: only a request can take the pair out. -/
structure Contested (env : Surroundings) (lifetimes : Lifetimes) (p : NewPair × IssuedPair)
    (σ : System) : Prop extends σ.Settled env lifetimes where
  ready : σ.service.database.Ready
  stored : p ∈ σ.stored
  kept : ∀ x ∈ (Tables.accessRow p.1 p.2.refreshTokenId p.2.accessTokenId).anchors, x ∉ σ.deletions

namespace Contested

/-- The row of the refresh token is there until the pair is replaced. -/
theorem refreshRow_mem_iff (h : σ.Contested env lifetimes p) :
    Tables.refreshRow p.1 p.2.refreshTokenId ∈ σ.tables.refreshTokens.rows ↔
      p.2.refreshTokenId ∉ superseded σ.stored := by
  rw [h.account.refreshRow p h.stored]
  refine and_iff_left fun x hx ↦ h.kept x ?_
  obtain rfl := List.mem_singleton.mp hx
  simp [Tables.anchors_accessRow, Tables.refreshRow]

/-- So is the row of the access token. -/
theorem accessRow_mem_iff (h : σ.Contested env lifetimes p) :
    Tables.accessRow p.1 p.2.refreshTokenId p.2.accessTokenId ∈ σ.tables.accessTokens.rows ↔
      p.2.refreshTokenId ∉ superseded σ.stored := by
  rw [h.account.accessRow p h.stored]
  exact and_iff_left h.kept

/-- The refresh token is found until the pair is replaced. -/
theorem reply_refreshToken (h : σ.Contested env lifetimes p) :
    (σ.service.answer env {} (.refreshToken p.1.refreshToken)).1 =
      .ok (if p.2.refreshTokenId ∈ superseded σ.stored then none
        else some ⟨p.2.refreshTokenId, p.1.refreshToken, p.1.refreshExpiresAt⟩) := by
  split
  · rename_i hgone
    rw [Service.answer_refreshToken_of_ok (h.ready.refreshToken?_eq_none ?_)]
    intro r hr htoken
    obtain ⟨q, hq, rfl⟩ := h.ledger.refreshRows r hr
    obtain rfl := h.eq_of_stored hq h.stored htoken
    exact h.refreshRow_mem_iff.mp hr hgone
  · rename_i hrow
    rw [Service.answer_refreshToken_of_ok
      (h.refreshToken?_eq h.ready (h.refreshRow_mem_iff.mpr hrow))]

/-- The access token is found until the pair is replaced. -/
theorem reply_accessToken (h : σ.Contested env lifetimes p) :
    (σ.service.answer env {} (.accessToken p.2.refreshTokenId)).1 =
      .ok (if p.2.refreshTokenId ∈ superseded σ.stored then none
        else some ⟨p.2.accessTokenId, p.1.accessToken, p.1.accessExpiresAt, p.1.owner.clientId?,
          p.1.owner.userId?, p.2.refreshTokenId⟩) := by
  split
  · rename_i hgone
    rw [Service.answer_accessToken_of_ok (h.accessToken?_eq_none h.ready h.stored ?_)]
    exact fun hrow ↦ h.accessRow_mem_iff.mp hrow hgone
  · rename_i hrow
    rw [Service.answer_accessToken_of_ok
      (h.accessToken?_eq h.ready (h.accessRow_mem_iff.mpr hrow))]

/-- The tokens that a request has drawn and not yet had stored are in no stored pair. -/
theorem ne_of_drawn (h : σ.Contested env lifetimes p) {i : Nat} {th : Thread}
    (hth : σ.threads[i]? = some th) (hasks : th.answer? = none) {q : NewPair × IssuedPair}
    (hq : q ∈ σ.stored) {token : String} (hdrawn : .turn i ⟨.freshToken, token⟩ ∈ σ.log) :
    q.1.refreshToken ≠ token ∧ q.1.accessToken ≠ token := by
  obtain ⟨j, hj⟩ := h.exists_turn hq
  obtain ⟨hfirst, hsecond⟩ := h.drawn hj
  have hne : j ≠ i := by
    rintro rfl
    obtain ⟨th', -, -, hth', -, -, hdone⟩ := h.concluded hj
    rw [hth] at hth'
    cases hth'
    rw [hasks] at hdone
    cases hdone
  constructor
  · rintro rfl
    exact hne (h.eq_of_fresh hfirst hdrawn)
  · rintro rfl
    exact hne (h.eq_of_fresh hsecond hdrawn)

/-- The pair is replaced, unless it has been replaced already. -/
theorem reply_storePair (h : σ.Contested env lifetimes p) {i : Nat} {th : Thread}
    (hth : σ.threads[i]? = some th) (hasks : th.answer? = none) {new : NewPair}
    (howner : new.owner = p.1.owner) (hsup : new.supersedes = some p.2.refreshTokenId)
    (hrefresh : .turn i ⟨.freshToken, new.refreshToken⟩ ∈ σ.log)
    (haccess : .turn i ⟨.freshToken, new.accessToken⟩ ∈ σ.log) :
    (∃ issued, (σ.service.answer env {} (.storePair new)).1 = .ok issued) ∨
      p.2.refreshTokenId ∈ superseded σ.stored ∧
        (σ.service.answer env {} (.storePair new)).1 = .error (.superseded p.2.refreshTokenId) := by
  change (∃ issued, (σ.service.database.storePair .none new).1 = _) ∨
    _ ∧ (σ.service.database.storePair .none new).1 = _
  by_cases hgone : p.2.refreshTokenId ∈ superseded σ.stored
  · refine .inr ⟨hgone, ?_⟩
    rw [h.ready.storePair_of_gone hsup]
    intro hid
    obtain ⟨r, hr, hid⟩ := List.mem_map.mp hid
    obtain ⟨q, hq, rfl⟩ := h.ledger.refreshRows r hr
    obtain rfl := h.account.eq_of_refreshTokenId hq h.stored hid
    exact h.refreshRow_mem_iff.mp hr hgone
  · obtain ⟨issued, db', hstore⟩ := h.storePair_replaces h.ready
      ⟨h.refreshRow_mem_iff.mpr hgone, h.accessRow_mem_iff.mpr hgone⟩ howner hsup fun q hq ↦
        ⟨(h.ne_of_drawn hth hasks hq hrefresh).1, (h.ne_of_drawn hth hasks hq haccess).2⟩
    rw [hstore]
    exact .inl ⟨issued, rfl⟩

end Contested

/-! ## Races -/

/-- After some events a pair stands, and then requests race for its refresh token, which does not
expire in the meantime. -/
structure Race (env : Surroundings) (lifetimes : Lifetimes) (before race : List Event)
    (p : NewPair × IssuedPair) : Prop where
  distinct : Function.Injective env.token
  own : ∀ e ∈ before, ¬ e.putsPair
  /-- Requests are being served. -/
  opened : (run env lifetimes before).service.database.closed = false
  stored : p ∈ (run env lifetimes before).stored
  stands : (run env lifetimes before).Stands p
  racing : ∀ e ∈ race, e.Races p.1.refreshToken (run env lifetimes before).threads.length
  /-- Whenever the clock is read in the race, the token has not expired. -/
  unexpired : ∀ k, (run env lifetimes before).service.readings ≤ k →
    k < (run env lifetimes (before ++ race)).service.readings →
      ¬ p.1.refreshExpiresAt ≤ env.clock k

/-- One request replaces a pair after another has looked for the refresh token of the pair, and
before that looks for the access token. -/
def Overtakes (σ : System) (p : NewPair × IssuedPair) (w i : Nat) : Prop :=
  ∃ (q : NewPair × IssuedPair) (found : Except Failure (Option RefreshToken))
    (access : Except Failure (Option AccessToken)), q.1.supersedes = some p.2.refreshTokenId ∧
      [.turn i ⟨.refreshToken p.1.refreshToken, found⟩, .turn w ⟨.storePair q.1, .ok q.2⟩,
        .turn i ⟨.accessToken p.2.refreshTokenId, access⟩].Sublist σ.log

theorem Overtakes.obtains {w i : Nat} (h : σ.Overtakes p w i) :
    ∃ q, σ.Obtains w q ∧ q.1.supersedes = some p.2.refreshTokenId := by
  obtain ⟨q, found, access, hsup, hsub⟩ := h
  exact ⟨q, hsub.subset (by simp), hsup⟩

namespace Race

variable {before race part rest : List Event} {i : Nat}

theorem settled (h : Race env lifetimes before race p) :
    (run env lifetimes before).Settled env lifetimes :=
  .run h.distinct h.own

/-- The pair is contested all through a race. -/
theorem contested (h : Race env lifetimes before race p) (hpart : part <+: race) :
    (run env lifetimes (before ++ part)).Contested env lifetimes p := by
  have hraces : ∀ e ∈ part, e.Races p.1.refreshToken (run env lifetimes before).threads.length :=
    fun e he ↦ h.racing e (hpart.subset he)
  have hsettled : (run env lifetimes (before ++ part)).Settled env lifetimes :=
    .run h.distinct (List.forall_mem_append.mpr ⟨h.own, fun e he ↦ (hraces e he).not_putsPair⟩)
  have hstored : p ∈ (run env lifetimes (before ++ part)).stored := by
    rw [run_append]
    exact (resume_stored part).subset h.stored
  have hkept : (run env lifetimes (before ++ part)).service.database.closed = false ∧
      ∀ y ∈ (run env lifetimes (before ++ part)).deletions,
        y ∈ (run env lifetimes before).deletions := by
    rw [run_append]
    refine resume_induction
      (P := fun σ ↦ σ.service.database.closed = false ∧
        ∀ y ∈ σ.deletions, y ∈ (run env lifetimes before).deletions)
      (A := (·.Races p.1.refreshToken (run env lifetimes before).threads.length))
      ⟨h.opened, fun y hy ↦ hy⟩ ?_ part hraces
    rintro σ e he ⟨hopened, hsub⟩
    exact ⟨he.closed_step.trans hopened, fun y hy ↦ hsub y (he.deletions_step hy)⟩
  refine { hsettled with ready := run_ready hkept.1, stored := hstored, kept := fun x hx hmem ↦ ?_ }
  exact ((h.settled.account.accessRow p h.stored).mp h.stands.2).2 x hx (hkept.2 x hmem)

theorem le_length (h : Race env lifetimes before race p)
    (hi : (run env lifetimes before).threads.length ≤ i) {l₁ l₂ : List Entry} {u : Turn}
    (hlog : (run env lifetimes (before ++ race)).log = l₁ ++ .turn i u :: l₂) :
    (run env lifetimes before).log.length ≤ l₁.length := by
  rw [run_append] at hlog
  exact h.settled.length_log_le hi hlog

/-- Racing requests present the refresh token. -/
theorem presents (h : Race env lifetimes before race p)
    (hi : (run env lifetimes before).threads.length ≤ i) {th : Thread}
    (hth : (run env lifetimes (before ++ race)).threads[i]? = some th) :
    th.request.grantType = GrantType.refreshToken.name ∧
      th.request.refreshToken.getD "" = p.1.refreshToken := by
  rw [run_append] at hth
  cases h.racing _ (arrive_of_resume hi hth) with
  | arrive hg ht => exact ⟨hg, ht⟩

/-- What is asked in a race is replied to as things stand at that moment. -/
theorem moment (h : Race env lifetimes before race p) {l₁ l₂ : List Entry} {u : Turn}
    (hlog : (run env lifetimes (before ++ race)).log = l₁ ++ .turn i u :: l₂)
    (hnew : (run env lifetimes before).log.length ≤ l₁.length) :
    ∃ part rest, race = part ++ .ask i {} :: rest ∧
      (run env lifetimes before).threads.length ≤ i ∧
      (run env lifetimes (before ++ part)).log = l₁ ∧
      (∃ th, (run env lifetimes (before ++ part)).threads[i]? = some th ∧ th.answer? = none) ∧
      u.reply = ((run env lifetimes (before ++ part)).service.answer env {} u.call).1 ∧
      ((run env lifetimes (before ++ part)).step env lifetimes (.ask i {})).service =
        ((run env lifetimes (before ++ part)).service.answer env {} u.call).2 := by
  rw [run_append] at hlog
  obtain ⟨part, e, rest, rfl, hpart, hstep⟩ := resume_moment hlog hnew
  rw [← run_append] at hpart hstep
  obtain ⟨o, basic, request, next, rfl, hth, hreply, hservice⟩ := step_turn (hpart ▸ hstep)
  have hraces := h.racing (.ask i o) (by simp)
  cases hraces with
  | ask hi => exact ⟨part, rest, rfl, hi, hpart, ⟨_, hth, rfl⟩, hreply, hservice⟩

/-- So is what follows the first turns of a request. -/
theorem turn_moment (h : Race env lifetimes before race p)
    (hi : (run env lifetimes before).threads.length ≤ i) (t₁ : List Turn) {t₂ : List Turn}
    {u : Turn} (hturns : (run env lifetimes (before ++ race)).turns i = t₁ ++ u :: t₂) :
    ∃ (σ : System) (l : List Entry), σ.Contested env lifetimes p ∧
      (run env lifetimes (before ++ race)).log = σ.log ++ .turn i u :: l ∧ σ.turns i = t₁ ∧
      (∃ th, σ.threads[i]? = some th ∧ th.answer? = none) ∧
      u.reply = (σ.service.answer env {} u.call).1 := by
  obtain ⟨l₁, l₂, hlog, hfirst⟩ := exists_log_of_turns hturns
  obtain ⟨part, rest, hrace, -, rfl, hth, hreply, -⟩ := h.moment hlog (h.le_length hi hlog)
  exact ⟨_, l₂, h.contested ⟨_, hrace.symm⟩, hlog, hfirst, hth, hreply⟩

/-- Whenever a racing request looks at the clock, the token has not expired. -/
theorem fresh (h : Race env lifetimes before race p)
    (hi : (run env lifetimes before).threads.length ≤ i) {now : Instant}
    (hmem : ⟨.now, now⟩ ∈ (run env lifetimes (before ++ race)).turns i) :
    ¬ p.1.refreshExpiresAt ≤ now := by
  obtain ⟨l₁, l₂, hlog⟩ := List.append_of_mem (mem_turns.mp hmem)
  obtain ⟨part, rest, rfl, -, -, -, hreply, hservice⟩ := h.moment hlog (h.le_length hi hlog)
  obtain rfl : now = env.clock (run env lifetimes (before ++ part)).service.readings := hreply
  refine h.unexpired _ ?_ ?_
  · rw [run_append]
    exact resume_readings part
  · generalize hσ : run env lifetimes (before ++ part) = σ at hservice
    calc σ.service.readings
        < (σ.step env lifetimes (.ask i {})).service.readings := by
          rw [hservice]
          exact Nat.lt_succ_self _
      _ ≤ (run env lifetimes (before ++ (part ++ .ask i {} :: rest))).service.readings := by
          rw [← List.append_assoc, run_append (before ++ part), resume_cons, hσ]
          exact resume_readings rest

/-- A request that is overtaken between its look-ups finds no access token. -/
theorem of_overtakes (h : Race env lifetimes before race p)
    (hi : (run env lifetimes before).threads.length ≤ i) {w : Nat}
    (ho : (run env lifetimes (before ++ race)).Overtakes p w i) :
    ⟨.accessToken p.2.refreshTokenId, .ok none⟩ ∈ (run env lifetimes (before ++ race)).turns i := by
  obtain ⟨q, found, access, hsup, hsub⟩ := ho
  obtain ⟨r₁, r₂, hlog, hfirst, hlast⟩ :=
    List.append_sublist_iff.mp (show ([_, _] ++ [_]).Sublist _ from hsub)
  obtain ⟨s₁, s₂, rfl⟩ := List.append_of_mem (List.singleton_sublist.mp hlast)
  rw [← List.append_assoc] at hlog
  obtain ⟨part, rest, hrace, -, hpart, -, hreply, -⟩ := h.moment hlog (h.le_length hi hlog)
  have hc := h.contested ⟨_, hrace.symm⟩
  have hw : (run env lifetimes (before ++ part)).Obtains w q := by
    rw [Obtains, hpart]
    exact List.mem_append_left _ (hfirst.subset (by simp))
  have hgone := hreply.trans hc.reply_accessToken
  rw [if_pos (hw.mem_superseded hsup)] at hgone
  obtain rfl : access = .ok none := hgone
  rw [mem_turns, hlog]
  simp

/-- Whoever replaces the pair takes part in the race. -/
theorem le_of_superseding (h : Race env lifetimes before race p) {w : Nat}
    {q : NewPair × IssuedPair} (hw : (run env lifetimes (before ++ race)).Obtains w q)
    (hsup : q.1.supersedes = some p.2.refreshTokenId) :
    (run env lifetimes before).threads.length ≤ w := by
  obtain ⟨l₁, l₂, hlog⟩ := List.append_of_mem hw
  have hsplit := hlog
  rw [run_append] at hsplit
  rcases resume_log_split hsplit with hnew | hold
  · obtain ⟨-, -, -, hle, -⟩ := h.moment hlog hnew
    exact hle
  · -- before the race the pair has not been replaced
    have hgone := Obtains.mem_superseded hold hsup
    exact absurd hgone ((h.settled.account.refreshRow p h.stored).mp h.stands.1).1

/-- What a racing request has found is the row of the refresh token. -/
theorem found_eq (h : Race env lifetimes before race p)
    (hi : (run env lifetimes before).threads.length ≤ i) {found : RefreshToken} {t : List Turn}
    (hturns : (run env lifetimes (before ++ race)).turns i =
      ⟨.refreshToken p.1.refreshToken, .ok (some found)⟩ :: t) :
    found = ⟨p.2.refreshTokenId, p.1.refreshToken, p.1.refreshExpiresAt⟩ := by
  obtain ⟨σ', l, hc, -, -, -, hreply⟩ := h.turn_moment hi [] hturns
  have hfound := hreply.trans hc.reply_refreshToken
  split at hfound
  · cases hfound
  · cases hfound
    rfl

/-- A request that has found the refresh token finds the access token too, unless it has been
overtaken since. -/
theorem accessToken_cases (h : Race env lifetimes before race p)
    (hi : (run env lifetimes before).threads.length ≤ i) {found : RefreshToken} {now : Instant}
    {access : Except Failure (Option AccessToken)} {t : List Turn}
    (hturns : (run env lifetimes (before ++ race)).turns i =
      [⟨.refreshToken p.1.refreshToken, .ok (some found)⟩, ⟨.now, now⟩] ++
        ⟨.accessToken p.2.refreshTokenId, access⟩ :: t) :
    access = .ok (some ⟨p.2.accessTokenId, p.1.accessToken, p.1.accessExpiresAt,
        p.1.owner.clientId?, p.1.owner.userId?, p.2.refreshTokenId⟩) ∨
      access = .ok none ∧
        p.2.refreshTokenId ∈ superseded (run env lifetimes (before ++ race)).stored ∧
          ∃ w, (run env lifetimes (before ++ race)).Overtakes p w i := by
  obtain ⟨σ', l, hc, hlog, hfirst, -, hreply⟩ := h.turn_moment hi _ hturns
  have haccess := hreply.trans hc.reply_accessToken
  split at haccess
  · rename_i hsup
    refine .inr ⟨haccess, superseded_of_log hlog hsup, ?_⟩
    obtain ⟨w, q, hw, hq⟩ := hc.exists_superseding hsup
    have hlookup : .turn i ⟨.refreshToken p.1.refreshToken, .ok (some found)⟩ ∈ σ'.log := by
      rw [← mem_turns, hfirst]
      simp
    obtain ⟨l₁, l₂, hsplit⟩ := List.append_of_mem hlookup
    rw [hsplit] at hlog
    -- when the refresh token was found, the pair had not been replaced
    have hlater : .turn w ⟨.storePair q.1, .ok q.2⟩ ∈ l₂ := by
      rw [Obtains, hsplit] at hw
      rcases List.mem_append.mp hw with hw | hw
      · rw [List.append_assoc, List.cons_append] at hlog
        obtain ⟨part, rest, hrace, -, rfl, -, hreply, -⟩ := h.moment hlog (h.le_length hi hlog)
        have hfound := hreply.trans (h.contested ⟨_, hrace.symm⟩).reply_refreshToken
        rw [if_pos (Obtains.mem_superseded hw hq)] at hfound
        cases hfound
      · simpa using hw
    refine ⟨w, q, .ok (some found), access, hq, ?_⟩
    rw [hlog]
    exact (((List.singleton_sublist.mpr hlater).cons_cons _).trans
      (List.sublist_append_right l₁ _)).append (List.singleton_sublist.mpr List.mem_cons_self)
  · exact .inl haccess

/-- A request that has found both tokens replaces the pair, unless another has done so since. -/
theorem storePair_cases (h : Race env lifetimes before race p)
    (hi : (run env lifetimes before).threads.length ≤ i) {pair : NewPair} {now : Instant}
    {stored : Except PairFault IssuedPair} {t : List Turn} (howner : pair.owner = p.1.owner)
    (hsup : pair.supersedes = some p.2.refreshTokenId)
    (hturns : (run env lifetimes (before ++ race)).turns i =
      t ++ Endpoint.issuing pair now stored) :
    (∃ issued, stored = .ok issued ∧
        (run env lifetimes (before ++ race)).Obtains i (pair, issued)) ∨
      stored = .error (.superseded p.2.refreshTokenId) ∧
        p.2.refreshTokenId ∈ superseded (run env lifetimes (before ++ race)).stored := by
  have hsplit : (run env lifetimes (before ++ race)).turns i =
      (t ++ [⟨.now, now⟩, ⟨.freshToken, pair.refreshToken⟩, ⟨.freshToken, pair.accessToken⟩]) ++
        [⟨.storePair pair, stored⟩] := by
    rw [hturns, List.append_assoc]
    rfl
  obtain ⟨σ', l, hc, hlog, hfirst, ⟨th, hth, hasks⟩, hreply⟩ := h.turn_moment hi _ hsplit
  have hrefresh : .turn i ⟨.freshToken, pair.refreshToken⟩ ∈ σ'.log := by
    rw [← mem_turns, hfirst]
    simp
  have haccess : .turn i ⟨.freshToken, pair.accessToken⟩ ∈ σ'.log := by
    rw [← mem_turns, hfirst]
    simp
  rcases hc.reply_storePair hth hasks howner hsup hrefresh haccess with
    ⟨issued, hok⟩ | ⟨hgone, herror⟩
  · obtain rfl : stored = .ok issued := hreply.trans hok
    refine .inl ⟨issued, rfl, ?_⟩
    rw [Obtains, ← mem_turns, hsplit]
    simp
  · exact .inr ⟨hreply.trans herror, superseded_of_log hlog hgone⟩

/-- How a racing request that has been answered has fared. -/
theorem outcome (h : Race env lifetimes before race p)
    (hi : (run env lifetimes before).threads.length ≤ i) {th : Thread}
    (hth : (run env lifetimes (before ++ race)).threads[i]? = some th)
    {a : Except Failure TokenResponse} (hdone : th.answer? = some a) :
    let σ := run env lifetimes (before ++ race)
    (∃ q, σ.Obtains i q ∧ q.1.supersedes = some p.2.refreshTokenId) ∨
      p.2.refreshTokenId ∈ superseded σ.stored ∧ ∃ f, a = .error f ∧ f.code = .invalidGrant ∧
        ((∃ w, σ.Overtakes p w i) ∧
            f.message = "Access token with refresh token not found" ∨
          (∀ w, ¬ σ.Overtakes p w i) ∧ f.message = "Refresh token not found") := by
  intro σ
  have hleads := (h.contested (List.prefix_refl race)).leads i th hth
  obtain ⟨hg, ht⟩ := h.presents hi hth
  rw [Thread.answer?_eq_some.mp hdone, Endpoint.token_of_refresh hg, ht] at hleads
  have hcourse := Endpoint.leads_refreshGrant hleads
  generalize hturns : (run env lifetimes (before ++ race)).turns i = t at hcourse
  cases hcourse with
  | unreadable =>
    obtain ⟨σ', l, hc, -, -, -, hreply⟩ := h.turn_moment hi [] hturns
    cases hreply.trans hc.reply_refreshToken
  | unknown =>
    obtain ⟨σ', l, hc, hlog, -, -, hreply⟩ := h.turn_moment hi [] hturns
    have hgone := hreply.trans hc.reply_refreshToken
    split at hgone
    · rename_i hsup
      refine .inr ⟨superseded_of_log hlog hsup, _, rfl, rfl, .inr ⟨fun w ho ↦ ?_, rfl⟩⟩
      simpa [hturns] using h.of_overtakes hi ho
    · cases hgone
  | expired hold =>
    obtain rfl := h.found_eq hi hturns
    exact absurd hold (h.fresh hi (by simp [hturns]))
  | ownerUnreadable hfresh =>
    obtain rfl := h.found_eq hi hturns
    rcases h.accessToken_cases hi hturns with haccess | ⟨haccess, -⟩
    · cases haccess
    · cases haccess
  | ownerless hfresh ho =>
    obtain rfl := h.found_eq hi hturns
    rcases h.accessToken_cases hi hturns with haccess | ⟨-, hsup, hw⟩
    · cases haccess
      cases ho.symm.trans (Owner.ofColumns?_columns p.1.owner)
    · exact .inr ⟨hsup, _, rfl, rfl, .inl ⟨hw, rfl⟩⟩
  | issued hfresh ho hissue =>
    obtain rfl := h.found_eq hi hturns
    rcases h.accessToken_cases hi hturns with haccess | ⟨haccess, -⟩
    · cases haccess
      obtain rfl := Option.some_inj.mp (ho.symm.trans (Owner.ofColumns?_columns p.1.owner))
      obtain ⟨pair, now', stored, hpair, rfl, rfl⟩ := Endpoint.leads_issue.mp hissue
      have howner : pair.owner = p.1.owner := (congrArg NewPair.owner hpair).trans rfl
      have hsup : pair.supersedes = some p.2.refreshTokenId :=
        (congrArg NewPair.supersedes hpair).trans rfl
      rcases h.storePair_cases hi howner hsup hturns with ⟨issued, rfl, hq⟩ | ⟨rfl, hgone⟩
      · exact .inl ⟨_, hq, hsup⟩
      · refine .inr ⟨hgone, _, rfl, rfl, .inr ⟨fun w ho ↦ ?_, rfl⟩⟩
        simpa [hturns, Endpoint.issuing] using h.of_overtakes hi ho
    · cases haccess

end Race

/-- A race for a refresh token has one winner.  However the questions of any number of requests are
mixed that all present a refresh token which stands and does not expire in the meantime, if nothing
fails and nothing is deleted, one of them succeeds.  Every other is told that there is no such
refresh token, or, if the winner has overtaken it between its two look-ups, that there is no access
token that goes with it. -/
theorem race_has_one_winner (env : Surroundings) (lifetimes : Lifetimes)
    (before race : List Event) (p : NewPair × IssuedPair) (h : Race env lifetimes before race p) :
    let first := (run env lifetimes before).threads.length
    let σ := run env lifetimes (before ++ race)
    first < σ.threads.length →
    (∀ i th, first ≤ i → σ.threads[i]? = some th → th.answer? ≠ none) →
    ∃ w, first ≤ w ∧ (∃ new, σ.Exchanges w p.1.refreshToken new) ∧
      ∀ i th, first ≤ i → σ.threads[i]? = some th → i ≠ w →
        ∃ f, th.answer? = some (.error f) ∧ f.code = .invalidGrant ∧ f.status = 400 ∧
          (σ.Overtakes p w i ∧ f.message = "Access token with refresh token not found" ∨
            ¬ σ.Overtakes p w i ∧ f.message = "Refresh token not found") := by
  intro first σ hsome hdone
  have hσ : σ.Contested env lifetimes p := h.contested (List.prefix_refl race)
  have hreplaced : p.2.refreshTokenId ∈ superseded σ.stored := by
    have hth := List.getElem?_eq_getElem hsome
    obtain ⟨a, ha⟩ := Option.ne_none_iff_exists'.mp (hdone first _ (Nat.le_refl _) hth)
    rcases h.outcome (Nat.le_refl _) hth ha with ⟨q, hq, hsup⟩ | ⟨hsup, -⟩
    · exact Obtains.mem_superseded hq hsup
    · exact hsup
  obtain ⟨w, q, hw, hsup⟩ := hσ.exists_superseding hreplaced
  have hx := hσ.exchanges hσ.stored hw hsup
  refine ⟨w, h.le_of_superseding hw hsup, ⟨_, hx⟩, fun i th hi hth hne ↦ ?_⟩
  obtain ⟨a, ha⟩ := Option.ne_none_iff_exists'.mp (hdone i th hi hth)
  rcases h.outcome hi hth ha with ⟨q', hq', hsup'⟩ | ⟨-, f, rfl, hcode, hmessage⟩
  · exact absurd (hσ.exchange_unique (hσ.exchanges hσ.stored hq' hsup') hx).1 hne
  · refine ⟨f, ha, hcode, by rw [Failure.status, hcode]; rfl, ?_⟩
    rcases hmessage with ⟨⟨w', ho⟩, hm⟩ | ⟨hno, hm⟩
    · obtain ⟨q', hq', hsup'⟩ := ho.obtains
      obtain rfl := (hσ.exchange_unique (hσ.exchanges hσ.stored hq' hsup') hx).1
      exact .inl ⟨ho, hm⟩
    · exact .inr ⟨hno w, hm⟩

/-- Four requests present the same refresh token.  The first wins, and overtakes the second between
its look-ups, the third before them and the fourth after them. -/
def contest : List Event :=
  List.replicate 4 (.arrive none { grantType := "refresh_token", refreshToken := some "a" }) ++
    ([2, 2, 4, 4, 4] ++ List.replicate 7 1 ++ [2, 3] ++ List.replicate 4 4).map (.ask · {})

/-- The pair that is raced for. -/
def prize : NewPair × IssuedPair :=
  (Endpoint.pairAt ⟨60, 3600⟩ (.user 1) none ⟨0, 0⟩ "a" "aa", ⟨1, 1, []⟩)

theorem race_contest : Race .counting ⟨60, 3600⟩ admission contest prize where
  distinct := Surroundings.counting_injective
  own := by decide
  opened := by decide +kernel
  stored := by decide +kernel
  stands := ⟨by decide +kernel, by decide +kernel⟩
  racing := by
    have hfirst : (run .counting ⟨60, 3600⟩ admission).threads.length = 1 := by decide +kernel
    rw [hfirst]
    refine List.forall_mem_append.mpr ⟨fun e he ↦ ?_, List.forall_mem_map.mpr fun i hi ↦ ?_⟩
    · rw [List.eq_of_mem_replicate he]
      exact .arrive rfl rfl
    · exact .ask ((by decide : ∀ i ∈ [2, 2, 4, 4, 4] ++ List.replicate 7 1 ++ [2, 3] ++
        List.replicate 4 4, 1 ≤ i) i hi)
  unexpired := by
    have hlast : (run .counting ⟨60, 3600⟩ (admission ++ contest)).service.readings = 6 := by
      decide +kernel
    rw [hlast]
    intro k _ hk hle
    change (⟨3600, 0⟩ : Instant) ≤ ⟨k, 0⟩ at hle
    rw [Instant.le_iff] at hle
    dsimp only at hle
    omega

theorem contest_answered (i : Nat) (th : Thread) (_ : 1 ≤ i)
    (hth : (run .counting ⟨60, 3600⟩ (admission ++ contest)).threads[i]? = some th) :
    th.answer? ≠ none := by
  have hall : ∀ th ∈ (run .counting ⟨60, 3600⟩ (admission ++ contest)).threads,
    th.answer? ≠ none := by decide +kernel
  exact hall th (List.mem_of_getElem? hth)

/-- The first request wins the race, and the others fail. -/
theorem race_has_one_winner_contest :
    let σ := run .counting ⟨60, 3600⟩ (admission ++ contest)
    Race .counting ⟨60, 3600⟩ admission contest prize ∧ 1 < σ.threads.length ∧
      (∀ i th, 1 ≤ i → σ.threads[i]? = some th → th.answer? ≠ none) ∧
      (∃ new, σ.Exchanges 1 "a" new) ∧
      ∀ i th, 1 ≤ i → σ.threads[i]? = some th → i ≠ 1 →
        ∃ f, th.answer? = some (.error f) ∧ f.code = .invalidGrant ∧ f.status = 400 ∧
          (σ.Overtakes prize 1 i ∧ f.message = "Access token with refresh token not found" ∨
            ¬ σ.Overtakes prize 1 i ∧ f.message = "Refresh token not found") := by
  intro σ
  have hlen : (run .counting ⟨60, 3600⟩ admission).threads.length = 1 := by decide +kernel
  have hsome : 1 < σ.threads.length := by decide +kernel
  obtain ⟨w, hw, hx, hothers⟩ := race_has_one_winner .counting ⟨60, 3600⟩ admission contest prize
    race_contest (hlen ▸ hsome) (hlen ▸ contest_answered)
  rw [hlen] at hw hothers
  have hfirst : σ.threads[1]?.map (·.answer?) =
      some (some (.ok ⟨2, "aaaa", 60, "Bearer", "", "aaa"⟩)) := by decide +kernel
  obtain ⟨th, hth, hok⟩ := Option.map_eq_some_iff.mp hfirst
  obtain rfl : w = 1 := by
    by_contra hne
    obtain ⟨f, herror, -⟩ := hothers 1 th (Nat.le_refl _) hth (Ne.symm hne)
    cases hok.symm.trans herror
  exact ⟨race_contest, hsome, contest_answered, hx, hothers⟩

/-- The second request, which has been overtaken between its look-ups, is not told that there is no
such refresh token. -/
theorem contest_overtaken_between :
    let σ := run .counting ⟨60, 3600⟩ (admission ++ contest)
    Race .counting ⟨60, 3600⟩ admission contest prize ∧
      (∀ i th, 1 ≤ i → σ.threads[i]? = some th → th.answer? ≠ none) ∧
      ∃ th f, σ.threads[2]? = some th ∧ th.answer? = some (.error f) ∧
        f.message ≠ "Refresh token not found" := by
  intro σ
  have hsecond : σ.threads[2]?.map (·.answer?) =
      some (some (.error (.invalidGrant "Access token with refresh token not found"))) := by
    decide +kernel
  refine ⟨race_contest, contest_answered, ?_⟩
  obtain ⟨th, hth, hanswer⟩ := Option.map_eq_some_iff.mp hsecond
  exact ⟨th, _, hth, hanswer, by decide⟩

end System

end TokenMint
