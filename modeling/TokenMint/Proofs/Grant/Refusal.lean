import TokenMint.Proofs.Grant.Entitlement
import TokenMint.Secret
import TokenMint.Service

/-! # Refusals tell nothing

Whoever presents a secret is looked up, and has one secret verified, whether anybody has been found
or not; and all that comes back of a refusal is one and the same response.  So the response does not
tell an unknown principal from a known one with another secret, and neither does the work: for the
hash that stands in for the missing one is made once, with the cost of all others, and kept. -/

namespace TokenMint

/-- The hash that a lookup has found with a principal, or that there is none. -/
def Turn.found? : Turn → Option (Option String)
  | ⟨.user _, .ok found⟩ => some (found.map (·.hash))
  | ⟨.client _, .ok found⟩ => some (found.map (·.hash))
  | _ => none

/-- Surroundings in which the placeholder is made with this cost under this salt. -/
def Surroundings.salted (cost : UInt32) (salt : List UInt8) : Surroundings :=
  { counting with placeholder := Secret.hash Endpoint.placeholderSecret cost salt }

namespace Endpoint

/-! ## The placeholder -/

/-- What one turn does to the placeholder that an endpoint keeps.  To the question for it the
endpoint replies itself, and makes it under some salt if need be; to all others the store and the
verifier may reply anything. -/
inductive Keeps (cost : UInt32) : Option String → Turn → Option String → Prop
  | placeholder (env : Surroundings) (s : Service) (salt : List UInt8)
    (h : env.placeholder = Secret.hash placeholderSecret cost salt) :
    Keeps cost s.placeholder ⟨.placeholder, (s.obtainPlaceholder env).1⟩
      (s.obtainPlaceholder env).2.placeholder
  | other (kept : Option String) {c : Call} (r : c.Reply) (hc : c ≠ .placeholder) :
    Keeps cost kept ⟨c, r⟩ kept

/-- A service that hashes with this cost keeps its placeholder in this way. -/
theorem Keeps.answer {cost : UInt32} {env : Surroundings} {salt : List UInt8}
    (h : env.placeholder = Secret.hash placeholderSecret cost salt) (o : Outage) (c : Call)
    (s : Service) :
    Keeps cost s.placeholder ⟨c, (s.answer env o c).1⟩ (s.answer env o c).2.placeholder := by
  cases c with
  | placeholder => exact .placeholder env s salt h
  | _ => exact .other _ _ nofun

/-- Every question can be replied to, and all but the one for the placeholder with anything. -/
theorem exists_keeps (cost : UInt32) (kept : Option String) (reply : (c : Call) → c.Reply)
    (c : Call) :
    ∃ r kept', Keeps cost kept ⟨c, r⟩ kept' ∧ (c ≠ .placeholder → r = reply c) := by
  by_cases hc : c = .placeholder
  · subst hc
    exact ⟨_, _, .placeholder (.salted cost []) { placeholder := kept } [] rfl, (absurd rfl ·)⟩
  · exact ⟨reply c, kept, .other kept _ hc, fun _ ↦ rfl⟩

/-- What has been made is kept. -/
theorem Keeps.made {cost : UInt32} {salt : List UInt8} {hash : String}
    (h : Secret.hash placeholderSecret cost salt = .ok hash) :
    Keeps cost none ⟨.placeholder, .ok hash⟩ (some hash) := by
  have hsalted : (Surroundings.salted cost salt).placeholder = .ok hash := h
  have hkeeps := Keeps.placeholder (.salted cost salt) {} salt rfl
  simpa [Service.obtainPlaceholder, hsalted] using hkeeps

/-- What is kept is given out. -/
theorem Keeps.kept (cost : UInt32) (hash : String) :
    Keeps cost (some hash) ⟨.placeholder, .ok hash⟩ (some hash) :=
  .placeholder (.salted cost []) { placeholder := some hash } [] rfl

/-- The turns that requests and warm-ups have taken at an endpoint, in any order, each with the
number of who took it, and the placeholder that the endpoint has come to keep. -/
inductive History (cost : UInt32) : List (Nat × Turn) → Option String → Prop
  | start : History cost [] none
  | turn {log : List (Nat × Turn)} {kept kept' : Option String} {u : Turn}
    (h : History cost log kept) (i : Nat) (hu : Keeps cost kept u kept') :
    History cost (log ++ [(i, u)]) kept'

/-- The turns that one of them has taken. -/
def turnsOf (log : List (Nat × Turn)) (i : Nat) : List Turn :=
  (log.filter (·.1 = i)).map (·.2)

theorem mem_turnsOf {log : List (Nat × Turn)} {i : Nat} {u : Turn} :
    u ∈ turnsOf log i ↔ (i, u) ∈ log := by
  simp [turnsOf]

/-- A hash of the secret behind the placeholder. -/
def IsPlaceholder (cost : UInt32) (hash : String) : Prop :=
  ∃ salt, Secret.hash placeholderSecret cost salt = .ok hash

variable {cost : UInt32}

/-- With a cost that bcrypt allows, the placeholder can be made. -/
theorem exists_isPlaceholder (hc : (cost.toNat : Int) ∈ Bcrypt.costRange) (salt : List UInt8) :
    ∃ hash, Secret.hash placeholderSecret cost salt = .ok hash := by
  rw [Secret.hash, Bcrypt.hash, if_pos hc]
  exact ⟨_, rfl⟩

/-- The step of the induction: the placeholder is made when it is first asked for, and stays. -/
theorem Keeps.placeholder_eq {kept kept' : Option String} {u : Turn} (h : Keeps cost kept u kept')
    (hc : (cost.toNat : Int) ∈ Bcrypt.costRange) :
    (∀ r, u = ⟨.placeholder, r⟩ → ∃ hash, kept' = some hash ∧ r = .ok hash) ∧
      (∀ hash, kept = some hash → kept' = some hash) ∧
        ∀ hash, kept' = some hash → kept = some hash ∨ IsPlaceholder cost hash := by
  cases h with
  | other _ r hne =>
    refine ⟨?_, fun _ h ↦ h, fun _ h ↦ .inl h⟩
    rintro r ⟨⟩
    exact absurd rfl hne
  | placeholder env s salt hmade =>
    obtain ⟨hash, hhash⟩ := exists_isPlaceholder hc salt
    unfold Service.obtainPlaceholder
    cases hkept : s.placeholder with
    | some old =>
      refine ⟨?_, ?_, ?_⟩
      · rintro r ⟨⟩
        exact ⟨old, hkept, rfl⟩
      · rintro _ ⟨⟩
        exact hkept
      · intro new hnew
        exact .inl (hkept.symm.trans hnew)
    | none =>
      simp only [hmade, hhash]
      refine ⟨?_, nofun, ?_⟩
      · rintro r ⟨⟩
        exact ⟨hash, rfl, rfl⟩
      · rintro _ ⟨⟩
        exact .inr ⟨salt, hhash⟩

/-- Whoever has asked for the placeholder has got the one that is kept. -/
theorem History.placeholder_eq {log : List (Nat × Turn)} {kept : Option String}
    (h : History cost log kept) (hc : (cost.toNat : Int) ∈ Bcrypt.costRange) :
    (∀ i r, (i, ⟨.placeholder, r⟩) ∈ log → ∃ hash, kept = some hash ∧ r = .ok hash) ∧
      ∀ hash, kept = some hash → IsPlaceholder cost hash := by
  induction h with
  | start => exact ⟨nofun, nofun⟩
  | @turn log kept kept' u h i hu ih =>
    obtain ⟨hasked, hmade⟩ := ih
    obtain ⟨hnew, hold, hkept⟩ := hu.placeholder_eq hc
    constructor
    · intro j r hmem
      rcases List.mem_append.mp hmem with hmem | hmem
      · obtain ⟨hash, hk, hr⟩ := hasked j r hmem
        exact ⟨hash, hold hash hk, hr⟩
      · cases List.mem_singleton.mp hmem
        exact hnew r rfl
    · intro hash hk
      rcases hkept hash hk with hk | hmade'
      · exact hmade hash hk
      · exact hmade'

/-- At each endpoint there is one hash that all get who ask for the placeholder. -/
theorem History.exists_placeholder {log : List (Nat × Turn)} {kept : Option String}
    (h : History cost log kept) (hc : (cost.toNat : Int) ∈ Bcrypt.costRange) :
    ∃ hash, IsPlaceholder cost hash ∧ ∀ i r, ⟨.placeholder, r⟩ ∈ turnsOf log i → r = .ok hash := by
  obtain ⟨hasked, hmade⟩ := h.placeholder_eq hc
  cases kept with
  | some hash =>
    refine ⟨hash, hmade hash rfl, fun i r hmem ↦ ?_⟩
    obtain ⟨_, hk, hr⟩ := hasked i r (mem_turnsOf.mp hmem)
    cases hk
    exact hr
  | none =>
    obtain ⟨hash, hhash⟩ := exists_isPlaceholder hc []
    refine ⟨hash, ⟨[], hhash⟩, fun i r hmem ↦ ?_⟩
    obtain ⟨_, hk, -⟩ := hasked i r (mem_turnsOf.mp hmem)
    cases hk

/-- However the store and the verifier reply, whatever is started at an endpoint comes to an end. -/
theorem History.exists_leads {α : Type} {log : List (Nat × Turn)} {kept : Option String}
    (h : History cost log kept) (p : Program α) (reply : (c : Call) → c.Reply) (i : Nat) :
    ∃ t a kept', p.Leads t (.done a) ∧ History cost (log ++ t.map (i, ·)) kept' ∧
      ∀ u ∈ t, u.call ≠ .placeholder → u.reply = reply u.call := by
  induction p generalizing log kept with
  | done a => exact ⟨[], a, kept, .refl _, by simpa using h, List.forall_mem_nil _⟩
  | ask c next ih =>
    obtain ⟨r, kept₁, hk, hr⟩ := exists_keeps cost kept reply c
    obtain ⟨t, a, kept', hleads, hhistory, hreply⟩ := ih r (h.turn i hk)
    refine ⟨⟨c, r⟩ :: t, a, kept', .ask hleads, by simpa using hhistory, ?_⟩
    exact List.forall_mem_cons.mpr ⟨hr, hreply⟩

/-- What a service runs goes on with the history of the placeholder that it keeps. -/
theorem History.exists_run {α : Type} {log : List (Nat × Turn)} {env : Surroundings} {s : Service}
    (h : History cost log s.placeholder) {salt : List UInt8}
    (hsalt : env.placeholder = Secret.hash placeholderSecret cost salt) (o : Outage)
    (p : Program α) (i : Nat) :
    ∃ t, p.Leads t (.done (p.run (Service.answer env o) s).1) ∧
      History cost (log ++ t.map (i, ·)) (p.run (Service.answer env o) s).2.placeholder := by
  induction p generalizing log s with
  | done a =>
    refine ⟨[], .refl _, ?_⟩
    rw [List.map_nil, List.append_nil]
    exact h
  | ask c next ih =>
    obtain ⟨t, hleads, hhistory⟩ := ih _ (h.turn i (.answer hsalt o c s))
    refine ⟨⟨c, (s.answer env o c).1⟩ :: t, .ask hleads, ?_⟩
    rw [List.append_assoc] at hhistory
    exact hhistory

theorem turnsOf_append {log : List (Nat × Turn)} {i : Nat} (h : turnsOf log i = [])
    (t : List Turn) : turnsOf (log ++ t.map (i, ·)) i = t := by
  rw [turnsOf, List.filter_append, List.map_append, ← turnsOf, h, List.nil_append,
    List.filter_eq_self.mpr]
  · simp [Function.comp_def]
  · simp

/-! ## Refusals -/

/-- A request presents a secret, for whoever is looked up by a question. -/
inductive Presents (basic : Option Credentials) (r : TokenRequest) : Call → String → Prop
  | password {c : Credentials} (hg : r.grantType = GrantType.password.name)
    (hc : c = .resolve basic r.username r.password) :
    Presents basic r (.user c.identifier) c.secret
  | clientCredentials {c : Credentials} (hg : r.grantType = GrantType.clientCredentials.name)
    (hc : c = .resolve basic r.clientId r.clientSecret) :
    Presents basic r (.client c.identifier) c.secret

variable {lifetimes : Lifetimes} {basic : Option Credentials} {r : TokenRequest} {lookup : Call}
  {secret : String} {t : List Turn} {a : Except Failure TokenResponse}

/-- Whoever presents a secret is looked up, and then the secret is checked. -/
theorem Presents.course (hp : Presents basic r lookup secret)
    (h : (token lifetimes basic r).Leads t (.done a)) :
    ∃ u t', t = u :: t' ∧ u.call = lookup ∧ (t' = [] ∧ u.found? = none ∨
      ∃ who, u.found? = some (who.map (·.2)) ∧ SecretCourse lifetimes secret who t' a) := by
  unfold token at h
  cases hp with
  | password hg hc =>
    rw [GrantType.parse_eq_ok.mpr hg, ← hc] at h
    obtain ⟨x, t', rfl, h₁⟩ := Program.Leads.call h
    refine ⟨_, t', rfl, rfl, ?_⟩
    cases x with
    | error f => exact .inl ⟨h₁.done.1, rfl⟩
    | ok found =>
      refine .inr ⟨_, ?_, leads_grantTo h₁⟩
      cases found <;> rfl
  | clientCredentials hg hc =>
    rw [GrantType.parse_eq_ok.mpr hg, ← hc] at h
    obtain ⟨x, t', rfl, h₁⟩ := Program.Leads.call h
    refine ⟨_, t', rfl, rfl, ?_⟩
    cases x with
    | error f => exact .inl ⟨h₁.done.1, rfl⟩
    | ok found =>
      refine .inr ⟨_, ?_, leads_grantTo h₁⟩
      cases found <;> rfl

/-- A request with a secret has been answered, and the secret is nobody's: whenever the principal
has been looked up, nobody has been found, or always one against whose hash the secret has not been
verified. -/
structure Refusal (lifetimes : Lifetimes) (q : Http.Request) (t : List Turn) (lookup : Call)
    (secret : String) (stored : Option String) (res : Http.Response) : Prop where
  path : q.path = Http.tokenPath
  method : q.method = "POST"
  presents : Presents q.basic? (q.form?.getD {}) lookup secret
  found : ∀ u ∈ t, u.call = lookup → u.found? = some stored
  refused : ∀ hash ∈ stored, ⟨.verify secret hash, true⟩ ∉ t
  leads : (Http.route lifetimes q).Leads t (.done res)

namespace Refusal

variable {q : Http.Request} {stored : Option String} {res : Http.Response}

theorem leads_token (h : Refusal lifetimes q t lookup secret stored res) :
    ∃ a, (token lifetimes q.basic? (q.form?.getD {})).Leads t (.done a) ∧ res = Http.respond a := by
  have hleads := h.leads
  rw [Http.route, if_pos h.path, if_pos h.method, Http.exchange] at hleads
  obtain ⟨a, t₁, t₂, rfl, h₁, h₂⟩ := hleads.bind
  obtain ⟨rfl, hres⟩ := h₂.done
  cases hres
  rw [List.append_nil]
  exact ⟨a, h₁, rfl⟩

/-- Every refusal is the same response, after one lookup and one verification. -/
theorem course (h : Refusal lifetimes q t lookup secret stored res) {hash : String}
    (hkept : ∀ r, ⟨.placeholder, r⟩ ∈ t → r = .ok hash) :
    res = .ofFailure .unauthorized ∧ ∃ u b, u.call = lookup ∧ u.found? = some stored ∧
      t = u :: (if stored = none then [⟨.placeholder, .ok hash⟩] else []) ++
        [⟨.verify secret (stored.getD hash), b⟩] := by
  obtain ⟨a, hleads, rfl⟩ := h.leads_token
  obtain ⟨u, t', rfl, hcall, hcourse⟩ := h.presents.course hleads
  have hu : u.found? = some stored := h.found u List.mem_cons_self hcall
  rcases hcourse with ⟨-, hnone⟩ | ⟨who, hwho, hsecret⟩
  · rw [hnone] at hu
    cases hu
  · obtain rfl : stored = who.map (·.2) := Option.some.inj (hu.symm.trans hwho)
    cases hsecret with
    | @unready f => cases hkept (.error f) (by simp)
    | @unknown made b =>
      obtain rfl : made = hash := Except.ok.inj (hkept (.ok made) (by simp))
      exact ⟨rfl, u, b, hcall, hu, rfl⟩
    | refused => exact ⟨rfl, u, false, hcall, hu, rfl⟩
    | proven => exact absurd (by simp) (h.refused _ rfl)

end Refusal

/-- A warm-up asks for the placeholder, and for nothing else. -/
theorem leads_warmUp {a : Except Failure Unit} (h : warmUp.Leads t (.done a)) {hash : String}
    (hkept : ∀ r, ⟨.placeholder, r⟩ ∈ t → r = .ok hash) :
    t = [⟨.placeholder, .ok hash⟩] ∧ a = .ok () := by
  obtain ⟨x, t', rfl, h₁⟩ := Program.Leads.call h
  obtain rfl := hkept x (by simp)
  obtain ⟨rfl, h₂⟩ := h₁.done
  cases h₂
  exact ⟨rfl, rfl⟩

/-- A failed authentication tells nothing.  At any two endpoints, whatever their stores and
verifiers reply and with any cost that bcrypt allows, all requests with a secret that is nobody's,
of users and of clients, known and unknown, get the same response.  Each has asked the store for one
lookup and the verifier for one verification of its secret, and for nothing else: of an unknown
principal it does not matter what the verifier has replied, and the hash is the placeholder, which
is one and the same for all requests and warm-ups of an endpoint.  All that comes in at an endpoint
is answered, and so is what a service is asked that keeps this placeholder. -/
theorem refusals_alike {cost cost' : UInt32} {log log' : List (Nat × Turn)}
    {kept kept' : Option String} (hcost : 4 ≤ cost.toNat ∧ cost.toNat ≤ 31)
    (hcost' : 4 ≤ cost'.toNat ∧ cost'.toNat ≤ 31) (h : History cost log kept)
    (h' : History cost' log' kept') :
    (∀ lifetimes lifetimes' q q' i i' lookup lookup' secret secret' stored stored' res res',
      Refusal lifetimes q (turnsOf log i) lookup secret stored res →
      Refusal lifetimes' q' (turnsOf log' i') lookup' secret' stored' res' → res = res') ∧
    (∃ hash, IsPlaceholder cost hash ∧
      (∀ i a, warmUp.Leads (turnsOf log i) (.done a) →
        turnsOf log i = [⟨.placeholder, .ok hash⟩] ∧ a = .ok ()) ∧
      ∀ lifetimes q i lookup secret stored res,
        Refusal lifetimes q (turnsOf log i) lookup secret stored res →
        res.status = 401 ∧ res.header? "www-authenticate" = some "Basic realm=Bearer" ∧
          res.header? "content-type" = some "application/json" ∧
          res.body = Wire.write (ErrorBody.mk "Unauthorized") ∧
          ∃ u b, u.call = lookup ∧ u.found? = some stored ∧
            turnsOf log i = u :: (if stored = none then [⟨.placeholder, .ok hash⟩] else []) ++
              [⟨.verify secret (stored.getD hash), b⟩]) ∧
    (∀ lifetimes q i (reply : (c : Call) → c.Reply), turnsOf log i = [] →
      ∃ t res kept'', History cost (log ++ t.map (i, ·)) kept'' ∧
        turnsOf (log ++ t.map (i, ·)) i = t ∧ (Http.route lifetimes q).Leads t (.done res) ∧
          ∀ u ∈ t, u.call ≠ .placeholder → u.reply = reply u.call) ∧
    ∀ env salt o s lifetimes q i, env.placeholder = Secret.hash placeholderSecret cost salt →
      s.placeholder = kept → turnsOf log i = [] →
      let answered := (Http.route lifetimes q).run (Service.answer env o) s
      ∃ t, History cost (log ++ t.map (i, ·)) answered.2.placeholder ∧
        turnsOf (log ++ t.map (i, ·)) i = t ∧
          (Http.route lifetimes q).Leads t (.done answered.1) := by
  have hrange {c : UInt32} (hc : 4 ≤ c.toNat ∧ c.toNat ≤ 31) :
      (c.toNat : Int) ∈ Bcrypt.costRange := by
    change (4 : Int) ≤ _ ∧ _ ≤ (31 : Int)
    omega
  obtain ⟨hash, hmade, hkept⟩ := h.exists_placeholder (hrange hcost)
  obtain ⟨hash', -, hkept'⟩ := h'.exists_placeholder (hrange hcost')
  refine ⟨?_, ⟨hash, hmade, fun i a hw ↦ leads_warmUp hw (hkept i), ?_⟩, ?_, ?_⟩
  · intro _ _ _ _ i i' _ _ _ _ _ _ _ _ hr hr'
    rw [(hr.course (hkept i)).1, (hr'.course (hkept' i')).1]
  · intro _ _ i _ _ _ _ hr
    obtain ⟨rfl, hturns⟩ := hr.course (hkept i)
    exact ⟨rfl, by decide +kernel, by decide +kernel, rfl, hturns⟩
  · intro lifetimes q i reply hnew
    obtain ⟨t, res, kept'', hleads, hhistory, hreply⟩ :=
      h.exists_leads (Http.route lifetimes q) reply i
    exact ⟨t, res, kept'', hhistory, turnsOf_append hnew t, hleads, hreply⟩
  · rintro env salt o s lifetimes q i hsalt rfl hnew
    obtain ⟨t, hleads, hhistory⟩ := h.exists_run hsalt o (Http.route lifetimes q) i
    exact ⟨t, hhistory, turnsOf_append hnew t, hleads⟩

/-- A form that is posted to the path for tokens. -/
def posted (form : String) : Http.Request where
  method := "POST"
  target := "/v1/oauth/tokens"
  headers := [("content-type", "application/x-www-form-urlencoded")]
  body := form.toUTF8.data.toList

theorem posted_path (form : String) : (posted form).path = Http.tokenPath := by
  have htarget : (posted form).target = (posted "").target := rfl
  have h : (posted "").path = Http.tokenPath := by decide +kernel
  rw [Http.Request.path, htarget]
  exact h

theorem posted_basic? (form : String) : (posted form).basic? = none := by
  have h : (posted "").basic? = none := by decide +kernel
  exact h

theorem route_posted (form : String) :
    Http.route lifetimes (posted form) = Http.exchange lifetimes (posted form) := by
  have hmethod : (posted form).method = "POST" := rfl
  rw [Http.route, if_pos (posted_path form), if_pos hmethod]

/-- After a warm-up, someone unknown presents the very secret behind the placeholder, and the
verifier finds it right; a client that is known presents a wrong one. -/
theorem refusals_alike_unknown_known :
    ∃ hash log kept, History 4 log kept ∧ IsPlaceholder 4 hash ∧
      warmUp.Leads (turnsOf log 0) (.done (.ok ())) ∧
      turnsOf log 0 = [⟨.placeholder, .ok hash⟩] ∧
      ⟨.verify placeholderSecret hash, true⟩ ∈ turnsOf log 1 ∧ ∃ q q' res res',
        Refusal ⟨60, 3600⟩ q (turnsOf log 1) (.user "ghost") placeholderSecret none res ∧
        Refusal ⟨60, 3600⟩ q' (turnsOf log 2) (.client "svc") "wrong" (some "h") res' ∧
        res = res' ∧ res.status = 401 := by
  obtain ⟨hash, hhash⟩ : ∃ hash, Secret.hash placeholderSecret 4 [] = .ok hash :=
    exists_isPlaceholder (by decide) []
  have hmade : Keeps 4 none ⟨.placeholder, .ok hash⟩ (some hash) := .made hhash
  have hother (u : Turn) (hu : u.call ≠ .placeholder) : Keeps 4 (some hash) u (some hash) :=
    .other _ u.reply hu
  let log : List (Nat × Turn) :=
    [(0, ⟨.placeholder, .ok hash⟩), (1, ⟨.user "ghost", .ok none⟩), (1, ⟨.placeholder, .ok hash⟩),
      (1, ⟨.verify placeholderSecret hash, true⟩),
      (2, ⟨.client "svc", .ok (some ⟨1, "svc", "h"⟩)⟩), (2, ⟨.verify "wrong" "h", false⟩)]
  have hlog : History 4 log (some hash) := by
    have h := (((History.start.turn 0 hmade).turn 1 (hother ⟨.user "ghost", .ok none⟩ nofun)).turn
      1 (.kept 4 hash)).turn 1 (hother ⟨.verify placeholderSecret hash, true⟩ nofun)
    exact (h.turn 2 (hother ⟨.client "svc", .ok (some ⟨1, "svc", "h"⟩)⟩ nofun)).turn 2
      (hother ⟨.verify "wrong" "h", false⟩ nofun)
  let q := posted "grant_type=password&username=ghost&password=unknown-principal-placeholder"
  let q' := posted "grant_type=client_credentials&client_id=svc&client_secret=wrong"
  have hq : q.form? = some
      { grantType := "password", username := some "ghost", password := some placeholderSecret } := by
    decide +kernel
  have hq' : q'.form? = some
      { grantType := "client_credentials", clientId := some "svc", clientSecret := some "wrong" } := by
    decide +kernel
  have hr : Refusal ⟨60, 3600⟩ q (turnsOf log 1) (.user "ghost") placeholderSecret none
      (.ofFailure .unauthorized) := by
    refine ⟨posted_path _, rfl, ?_, by simp [turnsOf, log, Turn.found?], nofun, ?_⟩
    · rw [hq, posted_basic?]
      exact @Presents.password _ _ ⟨"ghost", placeholderSecret⟩ rfl rfl
    · rw [route_posted, Http.exchange, hq, posted_basic?]
      exact .ask (.ask (.ask (.refl _)))
  have hr' : Refusal ⟨60, 3600⟩ q' (turnsOf log 2) (.client "svc") "wrong" (some "h")
      (.ofFailure .unauthorized) := by
    refine ⟨posted_path _, rfl, ?_, by simp [turnsOf, log, Turn.found?], ?_, ?_⟩
    · rw [hq', posted_basic?]
      exact @Presents.clientCredentials _ _ ⟨"svc", "wrong"⟩ rfl rfl
    · simp [turnsOf, log]
    · rw [route_posted, Http.exchange, hq', posted_basic?]
      exact .ask (.ask (.refl _))
  have hwarmed : warmUp.Leads (turnsOf log 0) (.done (.ok ())) := .ask (.refl _)
  obtain ⟨halike, ⟨_, -, -, hrefusal⟩, -⟩ := refusals_alike (by decide) (by decide) hlog hlog
  have hsame := halike _ _ _ _ _ _ _ _ _ _ _ _ _ _ hr hr'
  have hstatus := (hrefusal _ _ _ _ _ _ _ hr).1
  exact ⟨hash, log, some hash, hlog, ⟨[], hhash⟩, hwarmed, rfl, by simp [turnsOf, log], q, q', _, _,
    hr, hr', hsame, hstatus⟩

end Endpoint

end TokenMint
