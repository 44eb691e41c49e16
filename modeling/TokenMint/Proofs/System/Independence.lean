import TokenMint.Proofs.Grant.Verdict
import TokenMint.Proofs.Store.Renumbering
import TokenMint.Proofs.System.Principal

/-! # Independent requests

Two requests that share no refresh token are served one after the other.  Neither finds anything
else for the other having come first: the verdict on it is the same,
`Visit.Independent.verdict_serve`, and so is the pair that it gets, for its instants and fresh
tokens are its own.  What is stored for both is the same in either order but for the numbers of the
new rows. -/

namespace TokenMint

open Store (Database RefreshRow TableName Tables)

/-! ## One request -/

/-- A request with the instants and the fresh tokens that it will be given. -/
structure Visit where
  basic : Option Credentials
  request : TokenRequest
  clock : Nat → Instant
  token : Nat → String

/-- A response with another number for its access token. -/
def TokenResponse.renumber (α : Equiv.Perm Int) (r : TokenResponse) : TokenResponse :=
  { r with id := α r.id }

namespace Visit

variable (env : Surroundings) (lifetimes : Lifetimes)

/-- Serves a request from beginning to end. -/
def serve (v : Visit) (s : Service) : Except Failure TokenResponse × Service :=
  (Endpoint.token lifetimes v.basic v.request).run
    (Service.answer { env with clock := v.clock, token := v.token } {})
    { s with readings := 0, drawn := 0 }

/-- The verdict on a request that comes to a service. -/
def verdict (v : Visit) (s : Service) : Except Failure (Owner × Option Int) :=
  Endpoint.judge env.verify (s.offered env) (v.clock 0) v.basic v.request s.database

/-- The pair that a request gets if one is granted. -/
def pair (v : Visit) (owner : Owner) (supersedes : Option Int) : NewPair :=
  Endpoint.pairAt lifetimes owner supersedes (v.clock (if supersedes.isSome then 1 else 0))
    (v.token 0) (v.token 1)

/-- The fresh tokens of a request are in no row. -/
structure Fresh (v : Visit) (t : Tables) : Prop where
  refreshToken : ∀ r ∈ t.refreshTokens.rows, r.token ≠ v.token 0
  accessToken : ∀ a ∈ t.accessTokens.rows, a.token ≠ v.token 1

/-- How a request ends on which there is a verdict: nothing has been stored, or its pair. -/
inductive Ends (v : Visit) (s : Service) :
    Except Failure (Owner × Option Int) → Except Failure TokenResponse × Service → Prop
  | refused {f : Failure} {s' : Service} (hdatabase : s'.database = s.database)
    (hoffered : s'.offered env = s.offered env) : Ends v s (.error f) (.error f, s')
  | issued {owner : Owner} {supersedes : Option Int} {s' : Service}
    (haccepts : s.database.tables.Accepts (v.pair lifetimes owner supersedes))
    (hdatabase : s'.database = { s.database with tables :=
      (s.database.tables.without supersedes).withPair (v.pair lifetimes owner supersedes) })
    (hoffered : s'.offered env = s.offered env) :
    Ends v s (.ok (owner, supersedes))
      (.ok (s.database.tables.nextPair.response lifetimes (v.pair lifetimes owner supersedes)), s')

variable {v w : Visit} {s : Service}

theorem Ends.intact {verdict : Except Failure (Owner × Option Int)}
    {x : Except Failure TokenResponse × Service} (h : Ends env lifetimes v s verdict x)
    (hdb : s.database.Intact) : x.2.database.Intact := by
  cases h with
  | refused hdatabase => exact hdatabase ▸ hdb
  | issued _ hdatabase => exact hdatabase ▸ hdb.withTables _

theorem Ends.integrity {verdict : Except Failure (Owner × Option Int)}
    {x : Except Failure TokenResponse × Service} (h : Ends env lifetimes v s verdict x)
    (hi : s.database.tables.Integrity) : x.2.database.tables.Integrity := by
  cases h with
  | refused hdatabase => exact hdatabase ▸ hi
  | issued haccepts hdatabase =>
    rw [hdatabase]
    exact (hi.without _).withPair (haccepts.without _)

/-- With fresh tokens, a request on a database that is intact ends as the verdict on it says. -/
theorem serve_ends (hdb : s.database.Intact) (hi : s.database.tables.Integrity)
    (hfresh : v.Fresh s.database.tables) :
    Ends env lifetimes v s (v.verdict env s) (v.serve env lifetimes s) := by
  have hfollows : Service.Follows { env with clock := v.clock, token := v.token } lifetimes
      { s with readings := 0, drawn := 0 } (Endpoint.token lifetimes v.basic v.request)
        (v.verdict env s) := Service.follows_token ..
  unfold serve
  generalize hverdict : v.verdict env s = verdict at hfollows
  cases hfollows with
  | refused hs hrun =>
    rw [hrun]
    exact .refused hs.database hs.offered
  | @granted owner supersedes s' hs hreadings hrun =>
    obtain ⟨hopen, howner, hsup⟩ := Endpoint.of_judge_eq_ok hi hverdict
    have hpair : s'.drawnPair { env with clock := v.clock, token := v.token } lifetimes owner
        supersedes = v.pair lifetimes owner supersedes := by
      rw [Service.drawnPair, hreadings, hs.drawn]
      simp [pair]
    have haccepts : s.database.tables.Accepts (v.pair lifetimes owner supersedes) :=
      ⟨hfresh.refreshToken, hfresh.accessToken, howner⟩
    have hids : ∀ id ∈ supersedes, id ∈ s.database.tables.ids .refreshTokens := by
      intro id hid
      obtain ⟨row, hrow, rfl, -⟩ := hsup id hid
      exact List.mem_map_of_mem hrow
    have hready : s.database.Ready := { hdb with closed := hopen }
    obtain ⟨issued, db, hstore⟩ := hready.storePair_of_accepts hi hids (haccepts.without _)
    obtain ⟨-, t, hstores, rfl⟩ := Database.storePair_eq_ok hstore
    have hissued : issued = s.database.tables.nextPair :=
      hstores.issued_eq.trans (Tables.nextPair_without _ _)
    rw [hrun, Service.run_issue, hpair, hs.database]
    dsimp only
    rw [hstore, hissued]
    refine .issued haccepts ?_ hs.offered
    exact congrArg (fun tables ↦ { s.database with tables }) hstores.tables_eq

/-- A request is issued the fresh token that it has been given. -/
theorem refreshToken_of_serve (hdb : s.database.Intact) (hi : s.database.tables.Integrity)
    (hfresh : v.Fresh s.database.tables) {res : TokenResponse}
    (h : (v.serve env lifetimes s).1 = .ok res) : res.refreshToken = v.token 0 := by
  have hends := serve_ends env lifetimes hdb hi hfresh
  generalize v.serve env lifetimes s = x at hends h
  generalize v.verdict env s = verdict at hends
  cases hends with
  | refused => cases h
  | issued =>
    cases h
    rfl

/-! ## Two requests -/

variable {env lifetimes}

/-- Two requests have different fresh tokens, and they share no refresh token: none that is in a row
is presented by both, and neither presents one that the other is issued. -/
structure Independent (env : Surroundings) (lifetimes : Lifetimes) (s : Service) (v w : Visit) :
    Prop where
  fresh₁ : v.Fresh s.database.tables
  fresh₂ : w.Fresh s.database.tables
  distinct : v.token 0 ≠ w.token 0 ∧ v.token 1 ≠ w.token 1
  shared : ∀ token ∈ v.request.refreshes?, token ∈ w.request.refreshes? →
    ∀ r ∈ s.database.tables.refreshTokens.rows, r.token ≠ token
  issued₁ : ∀ res, (v.serve env lifetimes s).1 = .ok res → res.refreshToken ∉ w.request.refreshes?
  issued₂ : ∀ res, (w.serve env lifetimes s).1 = .ok res → res.refreshToken ∉ v.request.refreshes?

theorem Independent.symm (h : Independent env lifetimes s v w) :
    Independent env lifetimes s w v :=
  ⟨h.fresh₂, h.fresh₁, ⟨h.distinct.1.symm, h.distinct.2.symm⟩,
    fun token hw hv ↦ h.shared token hv hw, h.issued₂, h.issued₁⟩

/-- What goes for the pair of one request is not what the other presents. -/
theorem Independent.not_superseded (h : Independent env lifetimes s v w)
    (hi : s.database.tables.Integrity) {owner : Owner} {supersedes : Option Int}
    (hverdict : v.verdict env s = .ok (owner, supersedes)) {token : String}
    (htoken : token ∈ w.request.refreshes?) {r : RefreshRow}
    (hr : r ∈ s.database.tables.refreshTokens.rows) (hrow : r.token = token) :
    supersedes ≠ some r.id := by
  intro hsup
  obtain ⟨-, -, hpresented⟩ := Endpoint.of_judge_eq_ok hi hverdict
  obtain ⟨r', hr', hid, hv⟩ := hpresented r.id hsup
  obtain rfl : r' = r := List.inj_on_of_nodup_map hi.refreshTokens.ids hr' hr hid
  exact h.shared token (hrow ▸ hv) htoken r' hr hrow

/-- The verdict on a request does not change for an independent one that comes first. -/
theorem Independent.verdict_serve (h : Independent env lifetimes s v w)
    (hdb : s.database.Intact) (hi : s.database.tables.Integrity) :
    w.verdict env (v.serve env lifetimes s).2 = w.verdict env s := by
  have hends := serve_ends env lifetimes hdb hi h.fresh₁
  have hissued := h.issued₁
  generalize v.serve env lifetimes s = x at hends hissued ⊢
  generalize hverdict : v.verdict env s = verdict at hends
  unfold Visit.verdict
  cases hends with
  | refused hdatabase hoffered => rw [hdatabase, hoffered]
  | @issued owner supersedes s' haccepts hdatabase hoffered =>
    rw [hdatabase, hoffered]
    obtain ⟨husers, hclients, -⟩ := s.database.tables.without_principals supersedes
    have hnew : v.token 0 ∉ w.request.refreshes? := hissued _ rfl
    refine Endpoint.judge_congr husers hclients (fun token ht ↦ ?_) fun token ht r hr hrow ↦ ?_
    · refine Tables.find?_refresh_withPair
        (fun r hr hrow ↦ h.not_superseded hi hverdict ht hr hrow) ?_
      rintro (rfl : v.token 0 = token)
      exact hnew ht
    · exact Tables.find?_access_withPair hi hr (h.not_superseded hi hverdict ht hr hrow)

/-- Nor do its fresh tokens come into use. -/
theorem Independent.fresh_serve (h : Independent env lifetimes s v w)
    (hdb : s.database.Intact) (hi : s.database.tables.Integrity) :
    w.Fresh (v.serve env lifetimes s).2.database.tables := by
  have hends := serve_ends env lifetimes hdb hi h.fresh₁
  generalize v.serve env lifetimes s = x at hends ⊢
  generalize v.verdict env s = verdict at hends
  cases hends with
  | refused hdatabase =>
    rw [hdatabase]
    exact h.fresh₂
  | @issued owner supersedes s' haccepts hdatabase hoffered =>
    rw [hdatabase]
    constructor
    · intro r hr
      rcases List.mem_append.mp hr with hr | hr
      · rw [Tables.without_refreshTokens] at hr
        exact h.fresh₂.refreshToken r (List.mem_of_mem_filter hr)
      · obtain rfl := List.mem_singleton.mp hr
        exact h.distinct.1
    · intro a ha
      rcases List.mem_append.mp ha with ha | ha
      · rw [Tables.without_accessTokens] at ha
        exact h.fresh₂.accessToken a (List.mem_of_mem_filter ha)
      · obtain rfl := List.mem_singleton.mp ha
        exact h.distinct.2

/-- So the second request ends as if it had come first. -/
theorem Independent.second_ends (h : Independent env lifetimes s v w)
    (hdb : s.database.Intact) (hi : s.database.tables.Integrity) :
    Ends env lifetimes w (v.serve env lifetimes s).2 (w.verdict env s)
      (w.serve env lifetimes (v.serve env lifetimes s).2) := by
  have hends := serve_ends env lifetimes hdb hi h.fresh₁
  have hsecond := serve_ends env lifetimes (hends.intact _ _ hdb) (hends.integrity _ _ hi)
    (h.fresh_serve hdb hi)
  rw [h.verdict_serve hdb hi] at hsecond
  exact hsecond

end Visit

/-! ## Either order -/

/-- What two requests are answered, and the database after both. -/
structure Ending where
  first : Except Failure TokenResponse
  second : Except Failure TokenResponse
  database : Database

/-- The same, with the two requests named the other way round. -/
def Ending.swap (x : Ending) : Ending := ⟨x.second, x.first, x.database⟩

/-- Serves one request, and after it another. -/
def Visit.serveBoth (env : Surroundings) (lifetimes : Lifetimes) (v w : Visit) (s : Service) :
    Ending where
  first := (v.serve env lifetimes s).1
  second := (w.serve env lifetimes (v.serve env lifetimes s).2).1
  database := (w.serve env lifetimes (v.serve env lifetimes s).2).2.database

/-- Two endings on the same tables differ in no more than the numbers that have been given out on
the way: the requests have got the same failures, or the same tokens with the same scopes and the
same lifetime for the same owners, and the rows are the same. -/
structure Ending.Renumbered (t : Tables) (ρ α : Equiv.Perm Int) (x y : Ending) : Prop where
  refreshTokens : ∀ n, ρ n ≠ n →
    t.refreshTokens.last < n ∧ n ≤ x.database.tables.refreshTokens.last
  accessTokens : ∀ n, α n ≠ n →
    t.accessTokens.last < n ∧ n ≤ x.database.tables.accessTokens.last
  first : y.first = x.first.map (·.renumber α)
  second : y.second = x.second.map (·.renumber α)
  tables : (x.database.tables.renumber ρ α).Same y.database.tables
  database : y.database = { x.database with tables := y.database.tables }
  owners : ∀ res, x.first = .ok res ∨ x.second = .ok res → ∃ owner,
    res.BelongsTo owner x.database.tables ∧ (res.renumber α).BelongsTo owner y.database.tables

namespace TokenResponse.BelongsTo

variable {res : TokenResponse} {owner : Owner} {t t' : Tables}

theorem withPair (h : res.BelongsTo owner t) (pair : NewPair) :
    res.BelongsTo owner (t.withPair pair) := by
  obtain ⟨a, ha, hrow⟩ := h
  exact ⟨a, List.mem_append_left _ ha, hrow⟩

theorem renumber (h : res.BelongsTo owner t) {ρ α : Equiv.Perm Int}
    (hsame : (t.renumber ρ α).Same t') : (res.renumber α).BelongsTo owner t' := by
  obtain ⟨a, ha, hid, htoken, howner⟩ := h
  exact ⟨_, hsame.accessTokens.mem_iff.mp (List.mem_map_of_mem ha), congrArg α hid, htoken, howner⟩

end TokenResponse.BelongsTo

namespace Ending

variable {t : Tables} {x y : Ending}

/-- Where one ending is the other, there are no numbers to be changed. -/
theorem Renumbered.refl (h : ∀ res, x.first = .ok res ∨ x.second = .ok res →
    ∃ owner, res.BelongsTo owner x.database.tables) :
    Renumbered t (.refl _) (.refl _) x x := by
  have hsame : x.database.tables.renumber (.refl _) (.refl _) = x.database.tables := by
    simp [Tables.renumber]
  have hanswer (a : Except Failure TokenResponse) : a = a.map (·.renumber (.refl _)) := by
    cases a <;> rfl
  have htables : (x.database.tables.renumber (.refl _) (.refl _)).Same x.database.tables := by
    rw [hsame]
    exact .refl _
  refine ⟨fun n hn ↦ absurd rfl hn, fun n hn ↦ absurd rfl hn, hanswer _, hanswer _, htables, rfl,
    fun res hres ↦ ?_⟩
  obtain ⟨owner, howner⟩ := h res hres
  exact ⟨owner, howner, howner.renumber htables⟩

/-- Where both requests get pairs, in place of tokens that were there before, they exchange their
numbers. -/
theorem Renumbered.of_exchanges {db : Database} (hi : db.tables.Integrity) (lifetimes : Lifetimes)
    {a b : Option Int} (ha : a ≠ some db.tables.refreshTokens.next)
    (hb : b ≠ some db.tables.refreshTokens.next) (p q : NewPair) :
    Renumbered db.tables
      (.swap db.tables.refreshTokens.next (db.tables.refreshTokens.next + 1))
      (.swap db.tables.accessTokens.next (db.tables.accessTokens.next + 1))
      { first := .ok (db.tables.nextPair.response lifetimes p)
        second := .ok (((db.tables.without a).withPair p).nextPair.response lifetimes q)
        database := { db with
          tables := (((db.tables.without a).withPair p).without b).withPair q } }
      { first := .ok (((db.tables.without b).withPair q).nextPair.response lifetimes p)
        second := .ok (db.tables.nextPair.response lifetimes q)
        database := { db with
          tables := (((db.tables.without b).withPair q).without a).withPair p } } := by
  have hsame := Tables.exchange_comm hi ha hb p q
  have hnew {n last : Int} (hn : Equiv.swap (last + 1) (last + 1 + 1) n ≠ n) :
      last < n ∧ n ≤ last + 1 + 1 := by
    obtain ⟨-, rfl | rfl⟩ := Equiv.swap_apply_ne_self_iff.mp hn <;> omega
  refine ⟨fun n hn ↦ ?_, fun n hn ↦ ?_, ?_, ?_, hsame, rfl, fun res hres ↦ ?_⟩
  · have hlast : ((((db.tables.without a).withPair p).without b).withPair q).refreshTokens.last =
        db.tables.refreshTokens.last + 1 + 1 := by
      cases a <;> cases b <;> rfl
    exact hlast ▸ hnew hn
  · have hlast : ((((db.tables.without a).withPair p).without b).withPair q).accessTokens.last =
        db.tables.accessTokens.last + 1 + 1 := by
      cases a <;> cases b <;> rfl
    exact hlast ▸ hnew hn
  · rw [Tables.nextPair_exchange _ b q]
    simp [Except.map, TokenResponse.renumber, IssuedPair.response, Tables.nextPair]
  · rw [Tables.nextPair_exchange _ a p]
    simp [Except.map, TokenResponse.renumber, IssuedPair.response, Tables.nextPair]
  · have hbelongs : ∃ owner, res.BelongsTo owner
        ((((db.tables.without a).withPair p).without b).withPair q) := by
      rcases hres with ⟨⟨⟩⟩ | ⟨⟨⟩⟩
      · have hb : b ≠ some (db.tables.without a).refreshTokens.next := by cases a <;> exact hb
        rw [Tables.without_withPair (hi.without a) p hb]
        refine ⟨p.owner, .withPair (.of_withPair ?_) q⟩
        rw [← Tables.nextPair_without _ a, ← Tables.nextPair_without _ b]
        rfl
      · exact ⟨q.owner, .of_withPair (congrArg _ (Tables.nextPair_without _ _).symm)⟩
    obtain ⟨owner, howner⟩ := hbelongs
    exact ⟨owner, howner, howner.renumber hsame⟩

end Ending

namespace Visit

variable {env : Surroundings} {lifetimes : Lifetimes} {v w : Visit} {s : Service}

/-- What goes for a pair has been there before. -/
theorem supersedes_ne_next (hi : s.database.tables.Integrity) {owner : Owner}
    {supersedes : Option Int} (hverdict : v.verdict env s = .ok (owner, supersedes)) :
    supersedes ≠ some s.database.tables.refreshTokens.next := by
  intro hsup
  obtain ⟨-, -, hpresented⟩ := Endpoint.of_judge_eq_ok hi hverdict
  obtain ⟨r, hr, hid, -⟩ := hpresented _ hsup
  exact hi.refreshTokens.ne_next hr hid

/-- Two independent requests are served alike in either order. -/
theorem Independent.renumbered (h : Independent env lifetimes s v w)
    (hdb : s.database.Intact) (hi : s.database.tables.Integrity) :
    ∃ ρ α, Ending.Renumbered s.database.tables ρ α (serveBoth env lifetimes v w s)
      (serveBoth env lifetimes w v s).swap := by
  have hv₁ := serve_ends env lifetimes hdb hi h.fresh₁
  have hw₁ := serve_ends env lifetimes hdb hi h.fresh₂
  have hw₂ := h.second_ends hdb hi
  have hv₂ := h.symm.second_ends hdb hi
  unfold serveBoth Ending.swap
  generalize v.serve env lifetimes (w.serve env lifetimes s).2 = y₂ at hv₂ ⊢
  generalize w.serve env lifetimes (v.serve env lifetimes s).2 = x₂ at hw₂ ⊢
  generalize v.serve env lifetimes s = x₁ at hv₁ hw₂ ⊢
  generalize w.serve env lifetimes s = y₁ at hw₁ hv₂ ⊢
  generalize hV : v.verdict env s = V at hv₁ hv₂
  generalize hW : w.verdict env s = W at hw₁ hw₂
  cases hv₁ with
  | refused hx₁ =>
    cases hv₂ with | refused hy₂ =>
    cases hw₁ with
    | refused hy₁ =>
      cases hw₂ with | refused hx₂ =>
      rw [hx₂, hx₁, hy₂, hy₁]
      exact ⟨_, _, .refl (by simp)⟩
    | issued _ hy₁ =>
      cases hw₂ with | issued _ hx₂ =>
      rw [hx₂, hx₁, hy₂, hy₁]
      refine ⟨_, _, .refl ?_⟩
      rintro res (⟨⟨⟩⟩ | ⟨⟨⟩⟩)
      exact ⟨_, .of_withPair (congrArg _ (Tables.nextPair_without _ _).symm)⟩
  | @issued o a _ haccepts hx₁ =>
    cases hv₂ with | issued _ hy₂ =>
    cases hw₁ with
    | refused hy₁ =>
      cases hw₂ with | refused hx₂ =>
      rw [hx₂, hx₁, hy₂, hy₁]
      refine ⟨_, _, .refl ?_⟩
      rintro res (⟨⟨⟩⟩ | ⟨⟨⟩⟩)
      exact ⟨_, .of_withPair (congrArg _ (Tables.nextPair_without _ _).symm)⟩
    | @issued o' b _ _ hy₁ =>
      cases hw₂ with | issued _ hx₂ =>
      rw [hx₂, hx₁, hy₂, hy₁]
      exact ⟨_, _, .of_exchanges hi lifetimes (supersedes_ne_next hi hV) (supersedes_ne_next hi hW)
        _ _⟩

end Visit

namespace System

/-- Independent requests commute.  After any run, whatever state it has led to, let two requests
come that have fresh tokens of their own, that do not present the same refresh token, unless no row
has it, and neither of which presents one that the other is issued.  Served one after the other,
each gets the same in either order: the same failure, or the same tokens with the same scopes and
lifetime, for the same owner.  The databases are the same afterwards but for the numbers of the rows
that have come in with the two requests. -/
theorem independent_requests_commute (env : Surroundings) (lifetimes : Lifetimes)
    (events : List Event) (v w : Visit)
    (h : Visit.Independent env lifetimes (run env lifetimes events).service v w) :
    ∃ ρ α, Ending.Renumbered (run env lifetimes events).tables ρ α
      (Visit.serveBoth env lifetimes v w (run env lifetimes events).service)
      (Visit.serveBoth env lifetimes w v (run env lifetimes events).service).swap :=
  h.renumbered (run_intact events) (resume_integrity (σ := {}) .empty events)

/-- A user has a pair. -/
def furnished : List Event :=
  [.administer (.createUser "ann" "secret") {}, .administer (.createScope "read" true) {},
    .administer (.storePair
      { refreshToken := "old", refreshExpiresAt := ⟨100, 0⟩, accessToken := "older",
        accessExpiresAt := ⟨60, 0⟩, owner := .user 1, supersedes := none }) {}]

/-- The user presents a password in one request, and the refresh token in another. -/
theorem independent_requests_commute_furnished :
    let s := (run .counting ⟨60, 3600⟩ furnished).service
    let v : Visit := ⟨some ⟨"ann", "secret"⟩, { grantType := "password" }, fun _ ↦ ⟨5, 0⟩,
      fun n ↦ if n = 0 then "v" else "v'"⟩
    let w : Visit := ⟨none, { grantType := "refresh_token", refreshToken := some "old" },
      fun _ ↦ ⟨6, 0⟩, fun n ↦ if n = 0 then "w" else "w'"⟩
    let x := Visit.serveBoth .counting ⟨60, 3600⟩ v w s
    Visit.Independent .counting ⟨60, 3600⟩ s v w ∧
      x.first.toOption.map (·.id) = some 2 ∧ x.second.toOption.map (·.id) = some 3 ∧
      ∃ ρ α, Ending.Renumbered s.database.tables ρ α x
        (Visit.serveBoth .counting ⟨60, 3600⟩ w v s).swap := by
  intro s v w x
  have hdb : s.database.Intact := run_intact furnished
  have hi : s.database.tables.Integrity := resume_integrity (σ := {}) .empty furnished
  have hv : v.Fresh s.database.tables := ⟨by decide +kernel, by decide +kernel⟩
  have hw : w.Fresh s.database.tables := ⟨by decide +kernel, by decide +kernel⟩
  have h : Visit.Independent .counting ⟨60, 3600⟩ s v w := by
    refine ⟨hv, hw, by decide, by decide, fun res hres ↦ ?_, fun res hres ↦ ?_⟩
    · rw [Visit.refreshToken_of_serve .counting ⟨60, 3600⟩ hdb hi hv hres]
      decide
    · rw [Visit.refreshToken_of_serve .counting ⟨60, 3600⟩ hdb hi hw hres]
      decide
  refine ⟨h, by decide +kernel, by decide +kernel, ?_⟩
  exact independent_requests_commute .counting ⟨60, 3600⟩ furnished v w h

end System

end TokenMint
