import TokenMint.Proofs.Http.Credentials
import TokenMint.Proofs.System.Wording

/-! # Requests in place of each other

What has become of a request depends on the program that it has been turned into, and on nothing
else that it says.  So where the endpoint makes the same program of two requests, one can take the
place of the other in any run: the service goes through the same states, the same is asked of the
store and the verifier, and every client gets the same response. -/

namespace TokenMint

/-- The arrival of a request at the path for tokens. -/
def Http.Request.arrival (r : Http.Request) : Event := .arrive r.basic? (r.form?.getD {})

namespace System

variable {env : Surroundings} {lifetimes : Lifetimes}

/-- Two systems that differ at most in what their requests have presented. -/
structure Matches (σ τ : System) : Prop where
  service : σ.service = τ.service
  rests : σ.threads.map (·.rest) = τ.threads.map (·.rest)
  log : σ.log = τ.log

namespace Matches

variable {σ τ : System}

theorem refl (σ : System) : σ.Matches σ := ⟨rfl, rfl, rfl⟩

theorem rest_getElem? (h : σ.Matches τ) (i : Nat) :
    σ.threads[i]?.map (·.rest) = τ.threads[i]?.map (·.rest) := by
  rw [← List.getElem?_map, ← List.getElem?_map, h.rests]

theorem answer? (h : σ.Matches τ) (i : Nat) : σ.answer? i = τ.answer? i := by
  have hi := h.rest_getElem? i
  unfold System.answer?
  cases hσ : σ.threads[i]? with
  | none =>
    rw [hσ] at hi
    rw [Option.map_eq_none_iff.mp hi.symm]
  | some th =>
    rw [hσ] at hi
    obtain ⟨th', hτ, hrest⟩ := Option.map_eq_some_iff.mp hi.symm
    simp only [hτ, Option.bind_some, Thread.answer?, hrest]

/-- Two requests of which the endpoint makes the same program arrive. -/
theorem arrive (h : σ.Matches τ) {basic basic' : Option Credentials} {f f' : TokenRequest}
    (hprogram : Endpoint.token lifetimes basic f = Endpoint.token lifetimes basic' f') :
    (σ.step env lifetimes (.arrive basic f)).Matches
      (τ.step env lifetimes (.arrive basic' f')) where
  service := h.service
  rests := by
    simp only [System.step, List.map_append, h.rests, List.map_cons, List.map_nil, hprogram]
  log := h.log

/-- One event that hits both keeps them so. -/
theorem step (h : σ.Matches τ) (e : Event) :
    (σ.step env lifetimes e).Matches (τ.step env lifetimes e) := by
  cases e with
  | arrive basic request => exact h.arrive rfl
  | administer act o =>
    refine ⟨?_, h.rests, ?_⟩
    · simp only [System.step, h.service]
    · simp only [System.step, h.service, h.log]
  | ask i o =>
    have hi := h.rest_getElem? i
    simp only [System.step]
    cases hσ : σ.threads[i]? with
    | none =>
      rw [hσ] at hi
      rw [Option.map_eq_none_iff.mp hi.symm]
      exact h
    | some th =>
      rw [hσ] at hi
      obtain ⟨th', hτ, hrest⟩ := Option.map_eq_some_iff.mp hi.symm
      obtain ⟨basic, f, rest⟩ := th
      obtain ⟨basic', f', rest'⟩ := th'
      obtain rfl : rest' = rest := hrest
      cases rest' with
      | done a => simpa only [hτ] using h
      | ask c next =>
        simp only [hτ, h.service, h.log]
        refine ⟨rfl, ?_, rfl⟩
        change (σ.threads.set i _).map _ = (τ.threads.set i _).map _
        rw [List.map_set, List.map_set, h.rests]

theorem resume (h : σ.Matches τ) (events : List Event) :
    (σ.resume env lifetimes events).Matches (τ.resume env lifetimes events) := by
  induction events generalizing σ τ with
  | nil => exact h
  | cons e events ih => exact ih (h.step e)

end Matches

end System

open Http (Request)
open Bytes.Form (Holds)

theorem Http.Request.Carries.route_eq {lifetimes : Lifetimes} {r : Request} {g : GrantType}
    (h : r.Carries g) : Http.route lifetimes r = Http.respond <$> r.program lifetimes :=
  Http.route_token lifetimes h.path h.method

/-- One request can take the place of the other.  The same program answers both; and whatever has
happened before and whatever happens afterwards, the service goes through the same, the same is
asked, and the responses are the same. -/
structure Interchangeable (lifetimes : Lifetimes) (r r' : Request) : Prop where
  program : Http.route lifetimes r = Http.route lifetimes r'
  runs : ∀ (env : Surroundings) (before after : List Event),
    let σ := System.run env lifetimes (before ++ r.arrival :: after)
    let τ := System.run env lifetimes (before ++ r'.arrival :: after)
    σ.service = τ.service ∧ σ.log = τ.log ∧ ∀ i, σ.response? i = τ.response? i

/-- Requests for tokens that are answered by the same program are interchangeable. -/
theorem Http.Request.Carries.interchangeable (lifetimes : Lifetimes) {r r' : Request}
    {g : GrantType} (h : r.Carries g) (h' : r'.Carries g)
    (hprogram : r.program lifetimes = r'.program lifetimes) :
    Interchangeable lifetimes r r' where
  program := by
    rw [h.route_eq, h'.route_eq, hprogram]
  runs env before after := by
    intro σ τ
    have hmatches : σ.Matches τ := by
      simp only [σ, τ, System.run_append, System.resume_cons]
      exact ((System.Matches.refl _).arrive hprogram).resume after
    refine ⟨hmatches.service, hmatches.log, fun i ↦ ?_⟩
    rw [System.response?, System.response?, hmatches.answer? i]

/-- An identifier without a colon and a secret, be they in a header or in a form, are the same to
the grants that go by them: whatever else stands in the form, the answer is that of the grant to
these credentials.  And the grant that goes by a refresh token looks at nothing else. -/
theorem credentials_interchangeable (lifetimes : Lifetimes) :
    (∀ g identifierField secretField grant,
      GrantType.BySecret g identifierField secretField grant →
      ∀ c : Credentials, ':' ∉ c.identifier.toList →
      ∀ r r' : Request, r.Carries g → r'.Carries g →
      r.header? "authorization" = some c.basic →
      r'.header? "authorization" = none →
      Holds r'.body identifierField c.identifier → Holds r'.body secretField c.secret →
      Http.route lifetimes r = Http.respond <$> grant lifetimes c ∧
        Interchangeable lifetimes r r') ∧
    ∀ r r' : Request, r.Carries .refreshToken → r'.Carries .refreshToken →
      ∀ token : Option String, r.form?.bind (·.refreshToken) = token →
      r'.form?.bind (·.refreshToken) = token →
      Http.route lifetimes r = Http.respond <$> Endpoint.refreshGrant lifetimes (token.getD "") ∧
        Interchangeable lifetimes r r' := by
  constructor
  · intro g identifierField secretField grant hg c hc r r' h h' hheader hnone hidentifier hsecret
    have hprogram := h.program_of_header hg lifetimes hc hheader
    have hprogram' := h'.program_of_form hg lifetimes hnone hidentifier hsecret
    exact ⟨by rw [h.route_eq, hprogram],
      h.interchangeable lifetimes h' (hprogram.trans hprogram'.symm)⟩
  · rintro r r' h h' _ rfl htoken
    have hprogram := h.program_of_refresh lifetimes
    have hprogram' := h'.program_of_refresh lifetimes
    rw [htoken] at hprogram'
    exact ⟨by rw [h.route_eq, hprogram],
      h.interchangeable lifetimes h' (hprogram.trans hprogram'.symm)⟩

/-- A form posted to the path for tokens, with a header for credentials or without. -/
def submitted (basic : Option Credentials) (fs : List (String × String)) : Request where
  method := "POST"
  target := "/v1/oauth/tokens"
  headers := ("content-type", Request.formType) ::
    basic.toList.map fun c ↦ ("authorization", c.basic)
  body := Bytes.Form.writeFields fs

/-- A secret with all the signs that mean something in a form or a header is presented in both
ways, once next to somebody else's name; and a refresh token is exchanged by nobody in particular
and by somebody. -/
theorem credentials_interchangeable_signs :
    let c : Credentials := ⟨"änn", "a:b &=+%é"⟩
    let r := submitted (some c)
      [("grant_type", "password"), ("username", "eve"), ("scope", "admin")]
    let s := submitted none [("grant_type", "refresh_token"), ("refresh_token", "old")]
    Http.route ⟨60, 3600⟩ r = Http.respond <$> Endpoint.passwordGrant ⟨60, 3600⟩ c ∧
    Interchangeable ⟨60, 3600⟩ r (submitted none
      [("password", c.secret), ("grant_type", "password"), ("username", c.identifier)]) ∧
    Http.route ⟨60, 3600⟩ s = Http.respond <$> Endpoint.refreshGrant ⟨60, 3600⟩ "old" ∧
    Interchangeable ⟨60, 3600⟩ s (submitted (some c)
      [("refresh_token", "old"), ("username", "eve"), ("grant_type", "refresh_token")]) := by
  intro c r s
  have hcarries {r : Request} {g : GrantType} (hpath : r.path = Http.tokenPath)
      (hmethod : r.method = "POST") (hgrant : r.form?.map (·.grantType) = some g.name) :
      r.Carries g := ⟨hpath, hmethod, Option.map_eq_some_iff.mp hgrant⟩
  obtain ⟨hsecret, hrefresh⟩ := credentials_interchangeable ⟨60, 3600⟩
  rw [← and_assoc]
  constructor
  · refine hsecret .password _ _ _ .password c (by decide) r _
      (hcarries (by decide +kernel) rfl (by decide +kernel))
      (hcarries (by decide +kernel) rfl (by decide +kernel)) (by decide +kernel)
      (by decide +kernel) ?_ ?_
    · exact Bytes.Form.holds_writeFields (f := ("username", c.identifier)) (by simp)
    · exact Bytes.Form.holds_writeFields (f := ("password", c.secret)) (by simp)
  · exact hrefresh s _ (hcarries (by decide +kernel) rfl (by decide +kernel))
      (hcarries (by decide +kernel) rfl (by decide +kernel)) (some "old") (by decide +kernel)
      (by decide +kernel)

end TokenMint
