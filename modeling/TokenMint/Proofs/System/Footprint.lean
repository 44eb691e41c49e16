import TokenMint.Proofs.Store.Footprint
import TokenMint.Proofs.System.History

/-! # The footprint of a request

Of all the turns of a request only one can touch the tables, and that is the one by which it
succeeds.  So a request that fails, at whatever question and for whatever reason, leaves the tables
as it has found them; and one that succeeds has done to them what storing its pair does. -/

namespace TokenMint

open Store (AccessRow RefreshRow Tables)

/-- The refresh token that a request gives away for its pair: none, or the one that it presents. -/
inductive TokenRequest.Spends (r : TokenRequest) (t : Tables) : Option RefreshRow → Prop
  | nothing (h : r.grantType ∈ [GrantType.password.name, GrantType.clientCredentials.name]) :
    Spends r t none
  | presented {row : RefreshRow} (h : r.grantType = GrantType.refreshToken.name)
    (hrow : row ∈ t.refreshTokens.rows) (htoken : row.token = r.refreshToken.getD "") :
    Spends r t (some row)

theorem TokenRequest.Spends.mem {r : TokenRequest} {t : Tables} {gone : Option RefreshRow}
    (h : r.Spends t gone) : ∀ row ∈ gone, row ∈ t.refreshTokens.rows := by
  cases h with
  | nothing => simp
  | presented hg hrow => simpa using hrow

/-- What a request has done to the tables: it has put in the pair that it is answered with for the
refresh token that it presents, or else nothing. -/
def Thread.Touches (lifetimes : Lifetimes) (th : Thread) (t t' : Tables) : Prop :=
  match th.answer? with
  | some (.ok res) => ∃ gone p, t.Footprint gone p t' ∧ th.request.Spends t gone ∧
      res = p.2.response lifetimes p.1
  | _ => t' = t

/-- A turn that puts no pair in leaves the tables as they are. -/
theorem Entry.Tells.eq_of_turn {i : Nat} {u : Turn} {t t' : Tables}
    (h : (Entry.turn i u).Tells t t') (hu : u.stored? = none) : t' = t := by
  generalize hx : Entry.turn i u = x at h
  cases h with
  | idle => rfl
  | store hs =>
    rw [← hx, stored?_turn, hu] at hs
    cases hs
  | _ => cases hx

namespace System

variable {env : Surroundings} {lifetimes : Lifetimes} {σ : System}

theorem step_of_answered {i : Nat} {th : Thread} {a : Except Failure TokenResponse}
    (hth : σ.threads[i]? = some th) (hdone : th.answer? = some a) (o : Outage) :
    σ.step env lifetimes (.ask i o) = σ := by
  rcases σ.step_ask i o with hstep | ⟨basic, request, c, next, hasks, -⟩
  · exact hstep
  · rw [hth] at hasks
    cases hasks
    cases hdone

/-- A request that has not been answered yet takes a turn. -/
theorem step_of_unanswered {i : Nat} {th : Thread} (hth : σ.threads[i]? = some th)
    (hasks : th.answer? = none) (o : Outage) :
    ∃ th' u, (σ.step env lifetimes (.ask i o)).threads[i]? = some th' ∧
      th'.basic = th.basic ∧ th'.request = th.request ∧
        (σ.step env lifetimes (.ask i o)).log = σ.log ++ [.turn i u] := by
  obtain ⟨basic, request, rest⟩ := th
  cases rest with
  | done a => cases hasks
  | ask c next =>
    simp only [step, hth]
    exact ⟨_, _, List.getElem?_set_self (List.getElem?_eq_some_iff.mp hth).1, rfl, rfl, rfl⟩

/-- The row of a refresh token that a request has had replaced is that of the token presented. -/
theorem Accounted.presented (h : σ.Accounted env lifetimes) {e : Event} {i : Nat} {th : Thread}
    {p : NewPair × IssuedPair} (hth : (σ.step env lifetimes e).threads[i]? = some th)
    (hp : (σ.step env lifetimes e).Obtains i p) {row : RefreshRow}
    (hrow : row ∈ σ.tables.refreshTokens.rows) (hid : p.1.supersedes = some row.id) :
    th.request.Spends σ.tables (some row) := by
  have h' := h.step e
  obtain ⟨th', found, -, hth', hg, hfid, hfound, -⟩ := h'.replaced hp hid
  rw [hth] at hth'
  cases hth'
  obtain ⟨q, hq, htoken, hqid⟩ := h'.found i _ found hfound
  obtain ⟨q', hq', rfl⟩ := h.ledger.refreshRows row hrow
  have hq' : q' ∈ (σ.step env lifetimes e).stored := (resume_stored [e]).subset hq'
  obtain rfl := h'.account.eq_of_refreshTokenId hq hq' (hqid.trans hfid)
  exact .presented hg hrow htoken

/-- A request that has been under way succeeds by having its pair stored, and otherwise its turn
leaves the tables as they are. -/
theorem Recorded.ask_stores (h : σ.Recorded env lifetimes) {i : Nat} {th : Thread}
    (hth : σ.threads[i]? = some th) (hasks : th.answer? = none) (o : Outage) :
    ∃ th', (σ.step env lifetimes (.ask i o)).threads[i]? = some th' ∧ th'.basic = th.basic ∧
      th'.request = th.request ∧
        (∀ res, th'.answer? = some (.ok res) →
          ∃ p, (σ.step env lifetimes (.ask i o)).Obtains i p ∧
            σ.tables.Stores p.1 p.2 (σ.step env lifetimes (.ask i o)).tables ∧
              res = p.2.response lifetimes p.1) ∧
        ((∀ res, th'.answer? ≠ some (.ok res)) →
          (σ.step env lifetimes (.ask i o)).tables = σ.tables) := by
  have h' := h.step (.ask i o)
  obtain ⟨th', u, hth', hbasic, hrequest, hlog⟩ := step_of_unanswered hth hasks o
  have htells := step_log hlog
  have hleads := h'.leads i th' hth'
  rw [turns_concat hlog, if_pos rfl] at hleads
  have hsucceeds := Endpoint.token_succeeds_iff hleads
  refine ⟨th', hth', hbasic, hrequest, fun res hdone ↦ ?_, fun hno ↦ ?_⟩
  · obtain ⟨p, hp⟩ := hsucceeds.mp ⟨res, Thread.answer?_eq_some.mp hdone⟩
    have hobtains : (σ.step env lifetimes (.ask i o)).Obtains i p := by
      rw [Obtains, hlog, Turn.stored?_eq_some.mp hp]
      simp
    obtain ⟨th'', -, -, hth'', -, -, hanswer⟩ := h'.concluded hobtains
    rw [hth'] at hth''
    cases hth''
    rw [hdone] at hanswer
    exact ⟨p, hobtains, htells.stores (Entry.stored?_turn.trans hp),
      Except.ok.inj (Option.some.inj hanswer)⟩
  · refine htells.eq_of_turn (Option.eq_none_iff_forall_ne_some.mpr fun p hp ↦ ?_)
    obtain ⟨res, hdone⟩ := hsucceeds.mpr ⟨p, hp⟩
    exact hno res (Thread.answer?_eq_some.mpr hdone)

/-- The step of the induction: a turn touches what its request is answered for. -/
theorem Accounted.ask_touches (h : σ.Accounted env lifetimes) {i : Nat} {th : Thread}
    (hth : σ.threads[i]? = some th) (hasks : th.answer? = none) (o : Outage) :
    ∃ th', (σ.step env lifetimes (.ask i o)).threads[i]? = some th' ∧ th'.basic = th.basic ∧
      th'.request = th.request ∧
        th'.Touches lifetimes σ.tables (σ.step env lifetimes (.ask i o)).tables := by
  obtain ⟨th', hth', hbasic, hrequest, hok, hno⟩ := h.ask_stores hth hasks o
  refine ⟨th', hth', hbasic, hrequest, ?_⟩
  unfold Thread.Touches
  split
  · rename_i res hdone
    obtain ⟨p, hp, hstores, hres⟩ := hok res hdone
    obtain ⟨th'', t, -, hth'', -, he, -⟩ := (h.step (.ask i o)).concluded hp
    rw [hth'] at hth''
    cases hth''
    obtain ⟨gone, hspends, hid⟩ : ∃ gone, th'.request.Spends σ.tables gone ∧
        gone.map (·.id) = p.1.supersedes := by
      cases hs : p.1.supersedes with
      | none => exact ⟨none, .nothing (he.supersedes_eq_none_iff.mp hs), rfl⟩
      | some id =>
        obtain ⟨row, hrow, rfl⟩ := hstores.superseded id hs
        exact ⟨some row, h.presented hth' hp hrow hs, rfl⟩
    exact ⟨gone, p, hstores.footprint h.integrity hspends.mem hid, hspends, hres⟩
  · rename_i hfails
    exact hno hfails

/-! ## A request on its own -/

/-- The system after a request has come in and has asked its questions, with nothing in between:
one outage for each question, or none. -/
def handle (env : Surroundings) (lifetimes : Lifetimes) (σ : System) (basic : Option Credentials)
    (request : TokenRequest) (outages : List Outage) : System :=
  σ.resume env lifetimes (.arrive basic request :: outages.map (.ask σ.threads.length ·))

variable {basic : Option Credentials} {request : TokenRequest} {outages : List Outage}

theorem handle_concat (o : Outage) :
    σ.handle env lifetimes basic request (outages ++ [o]) =
      (σ.handle env lifetimes basic request outages).step env lifetimes
        (.ask σ.threads.length o) := by
  unfold handle
  rw [List.map_append, ← List.cons_append]
  exact resume_concat ..

/-- However far a request gets on its own, what it touches is its pair. -/
theorem Accounted.handle_touches (h : σ.Accounted env lifetimes) (basic : Option Credentials)
    (request : TokenRequest) (outages : List Outage) :
    ∃ th, (σ.handle env lifetimes basic request outages).threads[σ.threads.length]? = some th ∧
      th.basic = basic ∧ th.request = request ∧
        th.Touches lifetimes σ.tables (σ.handle env lifetimes basic request outages).tables := by
  induction outages using List.reverseRecOn with
  | nil =>
    refine ⟨⟨basic, request, Endpoint.token lifetimes basic request⟩,
      List.getElem?_concat_length, rfl, rfl, ?_⟩
    unfold Thread.Touches
    split
    · rename_i hdone
      exact absurd (Thread.answer?_eq_some.mp hdone) Endpoint.token_ne_ok
    · rfl
  | append_singleton outages o ih =>
    obtain ⟨th, hth, hbasic, hrequest, htouches⟩ := ih
    rw [handle_concat]
    cases hanswer : th.answer? with
    | some a =>
      rw [step_of_answered hth hanswer]
      exact ⟨th, hth, hbasic, hrequest, htouches⟩
    | none =>
      rw [Thread.Touches, hanswer] at htouches
      have h' : (σ.handle env lifetimes basic request outages).Accounted env lifetimes := h.resume _
      obtain ⟨th', hth', hbasic', hrequest', htouches'⟩ := h'.ask_touches hth hanswer o
      rw [htouches] at htouches'
      exact ⟨th', hth', hbasic'.trans hbasic, hrequest'.trans hrequest, htouches'⟩

/-- What a request is told on its own, it is told of the tables that it has found. -/
theorem Accounted.handle_replied (h : σ.Accounted env lifetimes) {u : Turn}
    (hu : .turn σ.threads.length u ∈ (σ.handle env lifetimes basic request outages).log) :
    ∃ (o : Outage) (s : Service), s.database.tables = σ.tables ∧
      u.reply = (s.answer env o u.call).1 := by
  induction outages using List.reverseRecOn with
  | nil => exact absurd (h.arrived _ u hu) (Nat.lt_irrefl _)
  | append_singleton outages o ih =>
    obtain ⟨th, hth, -, -, htouches⟩ := h.handle_touches basic request outages
    rw [handle_concat] at hu
    cases hanswer : th.answer? with
    | some a =>
      rw [step_of_answered hth hanswer] at hu
      exact ih hu
    | none =>
      rw [Thread.Touches, hanswer] at htouches
      obtain ⟨-, v, -, -, -, hlog⟩ := step_of_unanswered hth hanswer o
      obtain ⟨o', -, -, -, -, -, hreply, -⟩ := step_turn hlog
      rw [hlog, List.mem_append, List.mem_singleton] at hu
      rcases hu with hu | hu
      · exact ih hu
      · cases hu
        exact ⟨o', _, htouches, hreply⟩

/-- A refresh that succeeds on its own has found rows for the refresh token that it presents and for
the access token that goes with it. -/
theorem Accounted.handle_found (h : σ.Accounted env lifetimes) {th : Thread}
    (hth : (σ.handle env lifetimes basic request outages).threads[σ.threads.length]? = some th)
    {res : TokenResponse} (hdone : th.answer? = some (.ok res))
    (hg : th.request.grantType = GrantType.refreshToken.name) :
    ∃ r ∈ σ.tables.refreshTokens.rows, ∃ a ∈ σ.tables.accessTokens.rows,
      r.token = th.request.refreshToken.getD "" ∧ a.refreshTokenId = r.id := by
  have h' : (σ.handle env lifetimes basic request outages).Accounted env lifetimes := h.resume _
  obtain ⟨old, -, q, hq, -, hsup, -⟩ := h'.refreshed hth hg hdone
  obtain ⟨th', found, access, hth', -, hid, hfound, haccess, -⟩ := h'.replaced hq hsup
  rw [hth] at hth'
  cases hth'
  obtain ⟨o, s, htables, hreply⟩ := h.handle_replied hfound
  obtain ⟨r, hr, hrtoken, hrid⟩ := s.answer_refreshToken env o hreply.symm
  obtain ⟨o', s', htables', hreply'⟩ := h.handle_replied haccess
  obtain ⟨a, ha, haid, -⟩ := s'.answer_accessToken env o' hreply'.symm
  rw [htables] at hr
  rw [htables'] at ha
  exact ⟨r, hr, a, ha, hrtoken, haid.trans (hid.symm.trans hrid.symm)⟩

/-- A refresh token that is given away on its own goes together with an access token. -/
theorem Accounted.handle_partner (h : σ.Accounted env lifetimes) {th : Thread}
    (hth : (σ.handle env lifetimes basic request outages).threads[σ.threads.length]? = some th)
    {res : TokenResponse} (hdone : th.answer? = some (.ok res)) {row : RefreshRow}
    (hspends : th.request.Spends σ.tables (some row)) : ∃ a, σ.tables.partner row = some a := by
  cases hspends with
  | presented hg hrow htoken =>
    obtain ⟨r, hr, a, ha, hrtoken, hid⟩ := h.handle_found hth hdone hg
    obtain rfl := h.integrity.refreshTokens.eq_of_key hr hrow (hrtoken.trans htoken.symm)
    exact ⟨a, h.integrity.partner_eq_some.mpr ⟨ha, hid⟩⟩

/-- A request touches nothing but its own pair.  After any run, a request on its own that is not
answered with a pair, however far it has got and whatever has failed, leaves all tables as they are.
One that is answered with a pair has put in the rows of that pair and its links to the default
scopes, and has taken out nothing, or the presented refresh token with its access token and the
links of that; all other tokens keep their rows, links and scopes.  Among other requests, each of
its turns does so with the tables of that moment. -/
theorem request_touches_own_pair (env : Surroundings) (lifetimes : Lifetimes)
    (events : List Event) :
    let σ := run env lifetimes events
    (∀ basic request outages,
      let τ := σ.handle env lifetimes basic request outages
      ∃ th, τ.threads[σ.threads.length]? = some th ∧ th.basic = basic ∧ th.request = request ∧
        ((∀ res, th.answer? ≠ some (.ok res)) → τ.tables = σ.tables) ∧
        ∀ res, th.answer? = some (.ok res) →
          ∃ gone p, res = p.2.response lifetimes p.1 ∧ request.Spends σ.tables gone ∧
            (∀ row ∈ gone, ∃ a, σ.tables.partner row = some a) ∧
            σ.tables.Footprint gone p τ.tables ∧
            (∀ row ∈ σ.tables.refreshTokens.rows, some row ≠ gone →
              row ∈ τ.tables.refreshTokens.rows) ∧
            ∀ a ∈ σ.tables.accessTokens.rows, some a ≠ gone.bind σ.tables.partner →
              a ∈ τ.tables.accessTokens.rows ∧ τ.tables.linksOf a.id = σ.tables.linksOf a.id ∧
                τ.tables.scopesOf a.id = σ.tables.scopesOf a.id) ∧
    ∀ i th o, σ.threads[i]? = some th → th.answer? = none →
      ∃ th', (σ.step env lifetimes (.ask i o)).threads[i]? = some th' ∧ th'.basic = th.basic ∧
        th'.request = th.request ∧
          th'.Touches lifetimes σ.tables (σ.step env lifetimes (.ask i o)).tables := by
  intro σ
  have h : σ.Accounted env lifetimes := .run env lifetimes events
  refine ⟨fun basic request outages ↦ ?_, fun i th o hth hasks ↦ h.ask_touches hth hasks o⟩
  intro τ
  obtain ⟨th, hth, hbasic, hrequest, htouches⟩ := h.handle_touches basic request outages
  refine ⟨th, hth, hbasic, hrequest, fun hno ↦ ?_, fun res hdone ↦ ?_⟩
  · unfold Thread.Touches at htouches
    split at htouches
    · rename_i res hdone
      exact absurd hdone (hno res)
    · exact htouches
  · simp only [Thread.Touches, hdone, hrequest] at htouches
    obtain ⟨gone, p, hfoot, hspends, hres⟩ := htouches
    refine ⟨gone, p, hres, hspends, ?_, hfoot, fun row ↦ hfoot.refresh_stays,
      fun a ↦ hfoot.access_stays h.integrity⟩
    rintro row rfl
    exact h.handle_partner hth hdone (hrequest ▸ hspends)

/-- A user obtains two pairs, each with the default scope. -/
def twoGrants : List Event :=
  let request : TokenRequest :=
    { grantType := "password", username := some "ann", password := some "secret" }
  [.administer (.createUser "ann" "secret") {}, .administer (.createScope "write" false) {},
    .administer (.createScope "read" true) {}, .arrive none request, .arrive none request] ++
  List.replicate 6 (.ask 0 {}) ++ List.replicate 6 (.ask 1 {})

/-- The first pair is replaced and the second stays; if the transaction fails at its end, both
stay. -/
theorem request_touches_own_pair_rotation :
    let σ := run .counting ⟨60, 3600⟩ twoGrants
    let request : TokenRequest := { grantType := "refresh_token", refreshToken := some "a" }
    let failing : Outage := { pair := fun s ↦ if s = .commit then some .notNull else none }
    let τ := σ.handle .counting ⟨60, 3600⟩ none request (List.replicate 7 {})
    let τ' := σ.handle .counting ⟨60, 3600⟩ none request (List.replicate 7 failing)
    (∃ row p, row.token = "a" ∧ σ.tables.Footprint (some row) p τ.tables ∧
      σ.tables.linksOf 1 = [⟨1, 2⟩] ∧ τ.tables.linksOf 1 = [] ∧
        ∃ b ∈ τ.tables.accessTokens.rows, b.token = "aaaa" ∧ τ.tables.scopesOf b.id = ["read"]) ∧
    (τ'.threads[σ.threads.length]?.bind (·.answer?)).map (·.toOption) = some none ∧
      τ'.tables = σ.tables := by
  intro σ request failing τ τ'
  obtain ⟨hall, -⟩ := request_touches_own_pair .counting ⟨60, 3600⟩ twoGrants
  constructor
  · have hanswer : τ.threads[σ.threads.length]?.bind (·.answer?) =
        some (.ok ⟨3, "aaaaaa", 60, "Bearer", "read", "aaaaa"⟩) := by decide +kernel
    obtain ⟨th, hth, -, -, -, hok⟩ := hall none request (List.replicate 7 {})
    rw [hth] at hanswer
    obtain ⟨gone, p, -, hspends, -, hfoot, -, hstays⟩ := hok _ hanswer
    cases hspends with
    | nothing h => exact absurd h (by decide)
    | @presented row hg hrow htoken =>
      have hsecond : ∀ row ∈ σ.tables.refreshTokens.rows, row.token = "a" →
          ∃ b ∈ σ.tables.accessTokens.rows, some b ≠ σ.tables.partner row ∧ b.token = "aaaa" ∧
            σ.tables.scopesOf b.id = ["read"] := by decide +kernel
      obtain ⟨b, hb, hne, hbtoken, hscopes⟩ := hsecond row hrow htoken
      obtain ⟨hb', -, hscopes'⟩ := hstays b hb hne
      exact ⟨row, p, htoken, hfoot, by decide +kernel, by decide +kernel, b, hb', hbtoken,
        hscopes'.trans hscopes⟩
  · have hanswer : (τ'.threads[σ.threads.length]?.bind (·.answer?)).map (·.toOption) =
        some none := by decide +kernel
    obtain ⟨th, hth, -, -, hno, -⟩ := hall none request (List.replicate 7 failing)
    refine ⟨hanswer, hno fun res hdone ↦ ?_⟩
    rw [hth, Option.bind_some, hdone] at hanswer
    cases hanswer

end System

end TokenMint
