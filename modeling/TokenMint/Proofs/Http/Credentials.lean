import TokenMint.Http.Router
import TokenMint.Proofs.Bytes.Base64
import TokenMint.Proofs.Bytes.Form

/-! # Credentials in a header and in a form

An identifier and a secret come to the endpoint as they are in whichever of the two places they
have been written, and what else a request has to say is of no consequence. -/

namespace TokenMint

/-- The grants that go by an identifier and a secret: the names of their fields, and what is done
with the credentials. -/
inductive GrantType.BySecret : GrantType → String → String →
    (Lifetimes → Credentials → Program (Except Failure TokenResponse)) → Prop
  | password : BySecret .password "username" "password" Endpoint.passwordGrant
  | clientCredentials :
    BySecret .clientCredentials "client_id" "client_secret" Endpoint.clientGrant

section

variable {g : GrantType} {identifierField secretField : String}
  {grant : Lifetimes → Credentials → Program (Except Failure TokenResponse)}

/-- Credentials from the header win, whatever stands in the form. -/
theorem GrantType.BySecret.token_of_basic (hg : g.BySecret identifierField secretField grant)
    (lifetimes : Lifetimes) (c : Credentials) {f : TokenRequest} (hf : f.grantType = g.name) :
    Endpoint.token lifetimes (some c) f = grant lifetimes c := by
  rw [Endpoint.token, GrantType.parse_eq_ok.mpr hf]
  cases hg <;> rfl

/-! ## In a form -/

namespace TokenRequest

/-- A field that is read although it may come only once is the one that is there. -/
theorem single?_of_mem {fields : List (String × List UInt8)} {name : String} {w : List UInt8}
    {x : Option String} (h : single? fields name = some x) (hw : (name, w) ∈ fields) :
    x = some (Bytes.Form.part w) := by
  have hmem : (name, w) ∈ fields.filter (·.1 = name) := by simpa using hw
  unfold single? at h
  split at h
  · rename_i hnil
    rw [hnil] at hmem
    cases hmem
  · rename_i f hone
    rw [hone, List.mem_singleton] at hmem
    cases hmem
    exact (Option.some_inj.mp h).symm
  · cases h

theorem single?_of_holds {body : List UInt8} {name text : String} {x : Option String}
    (h : single? (Bytes.Form.fields body) name = some x) (hbody : Bytes.Form.Holds body name text) :
    x = some text := by
  obtain ⟨w, hw, rfl⟩ := hbody.mem_fields
  exact single?_of_mem h hw

end TokenRequest

/-- Without credentials from a header, those that a form holds are taken. -/
theorem GrantType.BySecret.token_of_form (hg : g.BySecret identifierField secretField grant)
    (lifetimes : Lifetimes) {body : List UInt8} {f : TokenRequest}
    (hread : TokenRequest.ofForm? body = some f) (hf : f.grantType = g.name) {c : Credentials}
    (hidentifier : Bytes.Form.Holds body identifierField c.identifier)
    (hsecret : Bytes.Form.Holds body secretField c.secret) :
    Endpoint.token lifetimes none f = grant lifetimes c := by
  rw [Endpoint.token, GrantType.parse_eq_ok.mpr hf]
  simp only [TokenRequest.ofForm?, Option.bind_eq_bind, Option.bind_eq_some_iff, Option.pure_def,
    Option.some_inj] at hread
  obtain ⟨-, -, username, husername, password, hpassword, clientId, hclientId, clientSecret,
    hclientSecret, -, -, -, -, rfl⟩ := hread
  cases hg with
  | password =>
    cases TokenRequest.single?_of_holds husername hidentifier
    cases TokenRequest.single?_of_holds hpassword hsecret
    rfl
  | clientCredentials =>
    cases TokenRequest.single?_of_holds hclientId hidentifier
    cases TokenRequest.single?_of_holds hclientSecret hsecret
    rfl

/-! ## In a header -/

/-- Credentials as the value of a header field. -/
def Credentials.basic (c : Credentials) : String :=
  "Basic " ++ .ofList
    (Bytes.Base64.standard.encode (Bytes.Utf8.encode (c.identifier ++ ":" ++ c.secret)))

namespace Http.Request

/-- Credentials are read from a header as they have been written, unless their identifier has a
colon. -/
theorem decodeBasic?_basic {c : Credentials} (h : ':' ∉ c.identifier.toList) :
    decodeBasic? c.basic = some c := by
  have hcut : Text.cut ':' (c.identifier ++ ":" ++ c.secret) = (c.identifier, some c.secret) := by
    simp [Text.cut, Pieces.cut_append h]
  have hne : c.identifier ++ ":" ++ c.secret ≠ "" := by
    intro hempty
    simp [hempty, Text.cut] at hcut
  obtain ⟨n, r, hcoded⟩ := Bytes.Base64.standard.encode_eq_cons (Bytes.Utf8.encode_ne_nil hne)
  have hblank : Bytes.Base64.standard.digit n ≠ ' ' :=
    Bytes.Base64.digit_ne Bytes.Base64.standard_faithful (by decide +kernel) n
  have hafter : afterScheme? "basic" c.basic = some (Bytes.Base64.standard.digit n :: r) := by
    have hvalue : c.basic.toList = "Basic".toList ++ ' ' :: Bytes.Base64.standard.digit n :: r := by
      simp [Credentials.basic, hcoded]
    have hscheme : Text.lower (.ofList "Basic".toList) = "basic" := by decide +kernel
    rw [afterScheme?, hvalue, Pieces.cut_append (by decide)]
    exact if_pos hscheme
  have hdropped : (Bytes.Base64.standard.digit n :: r).dropWhile (· = ' ') =
      Bytes.Base64.standard.digit n :: r := by
    rw [List.dropWhile_cons_of_neg (by simpa using hblank)]
  have hsome : Bytes.Base64.standard.digit n :: r ≠ [] := List.cons_ne_nil _ r
  simp only [decodeBasic?, hafter, Option.bind_eq_bind, Option.bind_some, hdropped, guard,
    if_pos hsome]
  rw [← hcoded, Bytes.Base64.decode_encode_standard]
  simp only [Option.pure_def, Option.bind_some, Bytes.Utf8.decode?_encode, hcut]

/-! ## At the path for tokens -/

/-- A request for tokens with a form that can be read and names this grant. -/
structure Carries (r : Request) (g : GrantType) : Prop where
  path : r.path = tokenPath
  method : r.method = "POST"
  form : ∃ f, r.form? = some f ∧ f.grantType = g.name

/-- A form that can be read has been read from the body. -/
theorem ofForm?_of_form? {r : Request} {f : TokenRequest} (h : r.form? = some f) :
    TokenRequest.ofForm? r.body = some f := by
  unfold form? at h
  split at h
  · exact h
  · cases h

/-- The program that answers a request for tokens. -/
def program (lifetimes : Lifetimes) (r : Request) : Program (Except Failure TokenResponse) :=
  Endpoint.token lifetimes r.basic? (r.form?.getD {})

variable {r : Request}

theorem Carries.program_of_header (hr : r.Carries g)
    (hg : g.BySecret identifierField secretField grant) (lifetimes : Lifetimes) {c : Credentials}
    (hc : ':' ∉ c.identifier.toList) (hheader : r.header? "authorization" = some c.basic) :
    r.program lifetimes = grant lifetimes c := by
  obtain ⟨f, hread, hf⟩ := hr.form
  have hbasic : r.basic? = some c := by
    rw [basic?, hheader, Option.bind_eq_bind, Option.bind_some, decodeBasic?_basic hc]
  rw [program, hbasic, hread]
  exact hg.token_of_basic lifetimes c hf

theorem Carries.program_of_form (hr : r.Carries g)
    (hg : g.BySecret identifierField secretField grant) (lifetimes : Lifetimes) {c : Credentials}
    (hheader : r.header? "authorization" = none)
    (hidentifier : Bytes.Form.Holds r.body identifierField c.identifier)
    (hsecret : Bytes.Form.Holds r.body secretField c.secret) :
    r.program lifetimes = grant lifetimes c := by
  obtain ⟨f, hread, hf⟩ := hr.form
  have hbasic : r.basic? = none := by
    rw [basic?, hheader]
    rfl
  rw [program, hbasic, hread]
  exact hg.token_of_form lifetimes (ofForm?_of_form? hread) hf hidentifier hsecret

/-- Of a request to exchange a refresh token nothing counts but that token. -/
theorem Carries.program_of_refresh (hr : r.Carries .refreshToken) (lifetimes : Lifetimes) :
    r.program lifetimes =
      Endpoint.refreshGrant lifetimes ((r.form?.bind (·.refreshToken)).getD "") := by
  obtain ⟨f, hread, hf⟩ := hr.form
  rw [program, hread, Option.getD_some, Endpoint.token, GrantType.parse_eq_ok.mpr hf]
  rfl

end Http.Request

end

end TokenMint
