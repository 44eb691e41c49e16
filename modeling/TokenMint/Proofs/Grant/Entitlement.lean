import TokenMint.Http.Router
import TokenMint.Proofs.Grant.Issue
import TokenMint.Proofs.Grant.Turn

/-! # What entitles to a pair

A token request gets a pair stored after certain turns and no others: a secret has been verified
against the hash of whoever presented it, or a refresh token that has not expired has been found,
and its access token with one owner.  Everything else ends before the store is changed, whatever the
store and the verifier reply. -/

namespace TokenMint

/-- The question puts something into the store. -/
def Call.Stores : Call → Prop
  | .storePair _ => True
  | _ => False

/-- The pair that has been put into the store by a turn. -/
def Turn.stored? : Turn → Option (NewPair × IssuedPair)
  | ⟨.storePair pair, r⟩ => r.toOption.map (pair, ·)
  | _ => none

theorem Turn.stored?_eq_some {u : Turn} {p : NewPair × IssuedPair} :
    u.stored? = some p ↔ u = ⟨.storePair p.1, .ok p.2⟩ := by
  constructor
  · intro h
    obtain ⟨c, r⟩ := u
    cases c with
    | storePair pair =>
      obtain ⟨issued, hr, rfl⟩ := Option.map_eq_some_iff.mp h
      cases r with
      | error e => cases hr
      | ok issued =>
        cases hr
        rfl
    | _ => cases h
  · rintro rfl
    rfl

namespace Endpoint

variable {lifetimes : Lifetimes} {basic : Option Credentials} {r : TokenRequest}

/-- After these turns a request is entitled to a pair for this owner, in place of that refresh
token. -/
inductive Entitles (basic : Option Credentials) (r : TokenRequest) :
    List Turn → Owner → Option Int → Prop
  | password {c : Credentials} {u : User} (hg : r.grantType = GrantType.password.name)
    (hc : c = .resolve basic r.username r.password) :
    Entitles basic r [⟨.user c.identifier, .ok (some u)⟩, ⟨.verify c.secret u.hash, true⟩]
      (.user u.id) none
  | clientCredentials {c : Credentials} {k : Client}
    (hg : r.grantType = GrantType.clientCredentials.name)
    (hc : c = .resolve basic r.clientId r.clientSecret) :
    Entitles basic r [⟨.client c.identifier, .ok (some k)⟩, ⟨.verify c.secret k.hash, true⟩]
      (.client k.id) none
  | refreshToken {found : RefreshToken} {access : AccessToken} {now : Instant} {owner : Owner}
    (hg : r.grantType = GrantType.refreshToken.name) (hfresh : ¬ found.expiresAt ≤ now)
    (hclient : access.clientId = owner.clientId?) (huser : access.userId = owner.userId?) :
    Entitles basic r
      [⟨.refreshToken (r.refreshToken.getD ""), .ok (some found)⟩, ⟨.now, now⟩,
        ⟨.accessToken found.id, .ok (some access)⟩]
      owner (some found.id)

/-- The turns of issuing. -/
def issuing (pair : NewPair) (now : Instant) (stored : Except PairFault IssuedPair) : List Turn :=
  [⟨.now, now⟩, ⟨.freshToken, pair.refreshToken⟩, ⟨.freshToken, pair.accessToken⟩,
    ⟨.storePair pair, stored⟩]

/-- A request has ended with a failure, and nothing has been stored. -/
def Refused (t : List Turn) (a : Except Failure TokenResponse) : Prop :=
  (∃ f, a = .error f) ∧ ∀ u ∈ t, ¬ u.call.Stores

theorem Refused.done {f : Failure} {t : List Turn} {a : Except Failure TokenResponse}
    (h : (Program.done (.error f)).Leads t (.done a)) : Refused t a := by
  obtain ⟨rfl, h⟩ := h.done
  cases h
  exact ⟨⟨f, rfl⟩, fun _ hu ↦ absurd hu List.not_mem_nil⟩

theorem Refused.cons {u : Turn} {t : List Turn} {a : Except Failure TokenResponse}
    (h : Refused t a) (hu : ¬ u.call.Stores) : Refused (u :: t) a :=
  ⟨h.1, List.forall_mem_cons.mpr ⟨hu, h.2⟩⟩

/-- How the turns of a request may go, and with what result. -/
inductive Course (lifetimes : Lifetimes) (basic : Option Credentials) (r : TokenRequest) :
    List Turn → Except Failure TokenResponse → Prop
  | refused {t : List Turn} {a : Except Failure TokenResponse} (h : Refused t a) :
    Course lifetimes basic r t a
  /-- Once entitled, the request gets a pair stored, or learns why not. -/
  | issued {t : List Turn} {pair : NewPair} {now : Instant} {stored : Except PairFault IssuedPair}
    (h : Entitles basic r t pair.owner pair.supersedes)
    (hpair : pair = pairAt lifetimes pair.owner pair.supersedes now pair.refreshToken
      pair.accessToken) :
    Course lifetimes basic r (t ++ issuing pair now stored) (conclude lifetimes pair stored)

/-! ## The parts of a request -/

theorem leads_issue {owner : Owner} {supersedes : Option Int} {t : List Turn}
    {a : Except Failure TokenResponse} :
    (issue lifetimes owner supersedes).Leads t (.done a) ↔
      ∃ pair now stored,
        pair = pairAt lifetimes owner supersedes now pair.refreshToken pair.accessToken ∧
          t = issuing pair now stored ∧ a = conclude lifetimes pair stored := by
  rw [issue_eq]
  constructor
  · intro h
    cases h with | ask h =>
    cases h with | ask h =>
    cases h with | ask h =>
    cases h with | ask h =>
    obtain ⟨rfl, h⟩ := h.done
    cases h
    exact ⟨_, _, _, rfl, rfl, rfl⟩
  · rintro ⟨pair, now, stored, hpair, rfl, rfl⟩
    rw [hpair]
    exact .ask (.ask (.ask (.ask (.refl _))))

/-- How a presented secret may fare, and with what result: one is verified even if nobody has been
found, but counts only of someone who has. -/
inductive SecretCourse (lifetimes : Lifetimes) (secret : String) :
    Option (Owner × String) → List Turn → Except Failure TokenResponse → Prop
  | unready {f : Failure} :
    SecretCourse lifetimes secret none [⟨.placeholder, .error f⟩] (.error f)
  | unknown {hash : String} {b : Bool} :
    SecretCourse lifetimes secret none [⟨.placeholder, .ok hash⟩, ⟨.verify secret hash, b⟩]
      (.error .unauthorized)
  | refused {owner : Owner} {hash : String} :
    SecretCourse lifetimes secret (some (owner, hash)) [⟨.verify secret hash, false⟩]
      (.error .unauthorized)
  | proven {owner : Owner} {hash : String} {t : List Turn} {a : Except Failure TokenResponse}
    (hi : (issue lifetimes owner none).Leads t (.done a)) :
    SecretCourse lifetimes secret (some (owner, hash)) (⟨.verify secret hash, true⟩ :: t) a

theorem leads_grantTo {secret : String} {who : Option (Owner × String)} {t : List Turn}
    {a : Except Failure TokenResponse} (h : (grantTo lifetimes secret who).Leads t (.done a)) :
    SecretCourse lifetimes secret who t a := by
  obtain ⟨authentic, t₁, t₂, rfl, h₁, h₂⟩ := Program.Leads.bind h
  rcases who with _ | ⟨owner, hash⟩
  · obtain ⟨x, t₃, rfl, h₃⟩ := Program.Leads.call h₁
    rcases x with f | hash
    · obtain ⟨rfl, h₄⟩ := h₃.done
      cases h₄
      obtain ⟨rfl, h₅⟩ := h₂.done
      cases h₅
      exact .unready
    · obtain ⟨b, t₄, rfl, h₄⟩ := Program.Leads.call h₃
      obtain ⟨rfl, h₅⟩ := h₄.done
      cases h₅
      obtain ⟨rfl, h₆⟩ := h₂.done
      cases h₆
      exact .unknown
  · obtain ⟨b, t₃, rfl, h₃⟩ := Program.Leads.call h₁
    obtain ⟨rfl, h₄⟩ := h₃.done
    cases h₄
    cases b with
    | true => exact .proven h₂
    | false =>
      obtain ⟨rfl, h₅⟩ := h₂.done
      cases h₅
      exact .refused

/-- Whose secret is not proven, is refused. -/
theorem SecretCourse.cases {α : Type} {secret : String} {who : α → Owner × String}
    {found : Option α} {t : List Turn} {a : Except Failure TokenResponse}
    (h : SecretCourse lifetimes secret (found.map who) t a) :
    (∃ x t', found = some x ∧ t = ⟨.verify secret (who x).2, true⟩ :: t' ∧
      (issue lifetimes (who x).1 none).Leads t' (.done a)) ∨ Refused t a := by
  generalize hw : found.map who = w at h
  cases h with
  | @proven owner hash t' _ hi =>
    obtain ⟨x, rfl, hx⟩ := Option.map_eq_some_iff.mp hw
    refine .inl ⟨x, t', rfl, ?_, ?_⟩
    · rw [hx]
    · rw [hx]
      exact hi
  | _ => exact .inr ⟨⟨_, rfl⟩, by simp [Call.Stores]⟩

theorem leads_passwordGrant {c : Credentials} {t : List Turn} {a : Except Failure TokenResponse}
    (h : (passwordGrant lifetimes c).Leads t (.done a)) :
    (∃ (u : User) (t' : List Turn),
      t = [⟨.user c.identifier, .ok (some u)⟩, ⟨.verify c.secret u.hash, true⟩] ++ t' ∧
        (issue lifetimes (.user u.id) none).Leads t' (.done a)) ∨ Refused t a := by
  obtain ⟨x, t₁, rfl, h₁⟩ := Program.Leads.call h
  cases x with
  | error f => exact .inr ((Refused.done h₁).cons id)
  | ok found =>
    rcases (leads_grantTo h₁).cases with ⟨u, t', rfl, rfl, hi⟩ | hr
    · exact .inl ⟨u, t', rfl, hi⟩
    · exact .inr (hr.cons id)

theorem leads_clientGrant {c : Credentials} {t : List Turn} {a : Except Failure TokenResponse}
    (h : (clientGrant lifetimes c).Leads t (.done a)) :
    (∃ (k : Client) (t' : List Turn),
      t = [⟨.client c.identifier, .ok (some k)⟩, ⟨.verify c.secret k.hash, true⟩] ++ t' ∧
        (issue lifetimes (.client k.id) none).Leads t' (.done a)) ∨ Refused t a := by
  obtain ⟨x, t₁, rfl, h₁⟩ := Program.Leads.call h
  cases x with
  | error f => exact .inr ((Refused.done h₁).cons id)
  | ok found =>
    rcases (leads_grantTo h₁).cases with ⟨k, t', rfl, rfl, hi⟩ | hr
    · exact .inl ⟨k, t', rfl, hi⟩
    · exact .inr (hr.cons id)

/-- How a presented refresh token may fare, check after check, and with what result. -/
inductive RefreshCourse (lifetimes : Lifetimes) (token : String) :
    List Turn → Except Failure TokenResponse → Prop
  | unreadable {f : Failure} :
    RefreshCourse lifetimes token [⟨.refreshToken token, .error f⟩] (.error f)
  | unknown :
    RefreshCourse lifetimes token [⟨.refreshToken token, .ok none⟩]
      (.error (.invalidGrant "Refresh token not found"))
  | expired {found : RefreshToken} {now : Instant} (hold : found.expiresAt ≤ now) :
    RefreshCourse lifetimes token [⟨.refreshToken token, .ok (some found)⟩, ⟨.now, now⟩]
      (.error (.invalidGrant "Refresh token expired"))
  | ownerUnreadable {found : RefreshToken} {now : Instant} {f : Failure}
    (hfresh : ¬ found.expiresAt ≤ now) :
    RefreshCourse lifetimes token
      [⟨.refreshToken token, .ok (some found)⟩, ⟨.now, now⟩, ⟨.accessToken found.id, .error f⟩]
      (.error f)
  | ownerless {found : RefreshToken} {now : Instant} {access : Option AccessToken}
    (hfresh : ¬ found.expiresAt ≤ now) (ho : access.bind (·.owner?) = none) :
    RefreshCourse lifetimes token
      [⟨.refreshToken token, .ok (some found)⟩, ⟨.now, now⟩, ⟨.accessToken found.id, .ok access⟩]
      (.error (.invalidGrant "Access token with refresh token not found"))
  | issued {found : RefreshToken} {now : Instant} {access : AccessToken} {owner : Owner}
    {t : List Turn} {a : Except Failure TokenResponse} (hfresh : ¬ found.expiresAt ≤ now)
    (ho : access.owner? = some owner)
    (hi : (issue lifetimes owner (some found.id)).Leads t (.done a)) :
    RefreshCourse lifetimes token
      ([⟨.refreshToken token, .ok (some found)⟩, ⟨.now, now⟩,
        ⟨.accessToken found.id, .ok (some access)⟩] ++ t) a

theorem leads_refreshGrant {token : String} {t : List Turn} {a : Except Failure TokenResponse}
    (h : (refreshGrant lifetimes token).Leads t (.done a)) :
    RefreshCourse lifetimes token t a := by
  obtain ⟨x, t₁, rfl, h₁⟩ := Program.Leads.call h
  rcases x with f | _ | found
  · obtain ⟨rfl, h₂⟩ := h₁.done
    cases h₂
    exact .unreadable
  · obtain ⟨rfl, h₂⟩ := h₁.done
    cases h₂
    exact .unknown
  · obtain ⟨now, t₂, rfl, h₂⟩ := Program.Leads.call h₁
    split at h₂
    · rename_i hold
      obtain ⟨rfl, h₃⟩ := h₂.done
      cases h₃
      exact .expired (by simpa [RefreshToken.expired] using hold)
    · rename_i hfresh
      have hfresh : ¬ found.expiresAt ≤ now := by simpa [RefreshToken.expired] using hfresh
      obtain ⟨y, t₃, rfl, h₃⟩ := Program.Leads.call h₂
      rcases y with f | access
      · obtain ⟨rfl, h₄⟩ := h₃.done
        cases h₄
        exact .ownerUnreadable hfresh
      · cases ho : access.bind (·.owner?) with
        | none =>
          simp only [ho] at h₃
          obtain ⟨rfl, h₄⟩ := h₃.done
          cases h₄
          exact .ownerless hfresh ho
        | some owner =>
          simp only [ho] at h₃
          obtain ⟨access, rfl, ho⟩ := Option.bind_eq_some_iff.mp ho
          exact .issued hfresh ho h₃

/-! ## The whole of a request -/

theorem Entitles.course {t t' : List Turn} {owner : Owner} {supersedes : Option Int}
    {a : Except Failure TokenResponse} (h : Entitles basic r t owner supersedes)
    (hi : (issue lifetimes owner supersedes).Leads t' (.done a)) :
    Course lifetimes basic r (t ++ t') a := by
  obtain ⟨pair, now, stored, hpair, rfl, rfl⟩ := leads_issue.mp hi
  have howner : owner = pair.owner := (congrArg NewPair.owner hpair).symm
  have hsup : supersedes = pair.supersedes := (congrArg NewPair.supersedes hpair).symm
  subst howner hsup
  exact .issued h hpair

theorem leads_token {t : List Turn} {a : Except Failure TokenResponse}
    (h : (token lifetimes basic r).Leads t (.done a)) : Course lifetimes basic r t a := by
  unfold token at h
  cases hg : GrantType.parse r.grantType with
  | error f =>
    rw [hg] at h
    exact .refused (.done h)
  | ok g =>
    rw [hg] at h
    have hg := GrantType.parse_eq_ok.mp hg
    cases g with
    | password =>
      rcases leads_passwordGrant h with ⟨u, t', rfl, hi⟩ | hr
      · exact (Entitles.password hg rfl).course hi
      · exact .refused hr
    | clientCredentials =>
      rcases leads_clientGrant h with ⟨k, t', rfl, hi⟩ | hr
      · exact (Entitles.clientCredentials hg rfl).course hi
      · exact .refused hr
    | refreshToken =>
      cases leads_refreshGrant h with
      | issued hfresh ho hi =>
        obtain ⟨hc, hu⟩ := Owner.ofColumns?_eq_some.mp ho
        exact (Entitles.refreshToken hg hfresh hc hu).course hi
      | _ => exact .refused ⟨⟨_, rfl⟩, by simp [Call.Stores]⟩

/-- Once entitled, a request does nothing but issue. -/
theorem Entitles.leads {t : List Turn} {owner : Owner} {supersedes : Option Int}
    (h : Entitles basic r t owner supersedes) :
    (token lifetimes basic r).Leads t (issue lifetimes owner supersedes) := by
  unfold token
  cases h with
  | password hg hc =>
    rw [GrantType.parse_eq_ok.mpr hg, ← hc]
    exact .asked (.asked (.refl _))
  | clientCredentials hg hc =>
    rw [GrantType.parse_eq_ok.mpr hg, ← hc]
    exact .asked (.asked (.refl _))
  | @refreshToken found access now owner hg hn hc hu =>
    rw [GrantType.parse_eq_ok.mpr hg]
    have ho : access.owner? = some owner := Owner.ofColumns?_eq_some.mpr ⟨hc, hu⟩
    refine .asked (.asked ?_)
    rw [if_neg (by simpa [RefreshToken.expired] using hn)]
    refine .asked ?_
    simp only [Option.bind_some, ho]
    exact .refl _

/-- Once entitled, a request has a pair stored, whatever comes of that. -/
theorem Entitles.leads_issuing {t : List Turn} {owner : Owner} {supersedes : Option Int}
    {pair : NewPair} {now : Instant} {stored : Except PairFault IssuedPair}
    (h : Entitles basic r t owner supersedes)
    (hpair : pair = pairAt lifetimes owner supersedes now pair.refreshToken pair.accessToken) :
    (token lifetimes basic r).Leads (t ++ issuing pair now stored)
      (.done (conclude lifetimes pair stored)) :=
  h.leads.trans (leads_issue.mpr ⟨pair, now, stored, hpair, rfl, rfl⟩)

theorem Entitles.quiet {t : List Turn} {owner : Owner} {supersedes : Option Int}
    (h : Entitles basic r t owner supersedes) : ∀ u ∈ t, ¬ u.call.Stores := by
  cases h <;> simp [Call.Stores]

/-- A pair is stored last or not at all. -/
theorem Course.last {t₁ t₂ : List Turn} {u : Turn} {a : Except Failure TokenResponse}
    (h : Course lifetimes basic r (t₁ ++ u :: t₂) a) (hu : u.call.Stores) :
    t₂ = [] ∧ ∀ v ∈ t₁, ¬ v.call.Stores := by
  generalize ht : t₁ ++ u :: t₂ = t at h
  cases h with
  | refused h =>
    subst ht
    exact absurd hu (h.2 u (by simp))
  | @issued e pair now stored h hpair =>
    have hquiet : ∀ v ∈ e ++ [⟨.now, now⟩, ⟨.freshToken, pair.refreshToken⟩,
        ⟨.freshToken, pair.accessToken⟩], ¬ v.call.Stores :=
      List.forall_mem_append.mpr ⟨h.quiet, by simp [Call.Stores]⟩
    rw [show issuing pair now stored = [⟨.now, now⟩, ⟨.freshToken, pair.refreshToken⟩,
      ⟨.freshToken, pair.accessToken⟩] ++ [⟨.storePair pair, stored⟩] from rfl,
      ← List.append_assoc] at ht
    rcases t₂.eq_nil_or_concat with rfl | ⟨t₃, v, rfl⟩
    · obtain ⟨rfl, -⟩ := List.append_inj' ht rfl
      exact ⟨rfl, hquiet⟩
    · rw [List.concat_eq_append, ← List.cons_append, ← List.append_assoc] at ht
      obtain ⟨heq, -⟩ := List.append_inj' ht rfl
      exact absurd hu (hquiet u (heq ▸ by simp))

theorem token_last {t₁ t₂ : List Turn} {u : Turn} {q : Program (Except Failure TokenResponse)}
    (h : (token lifetimes basic r).Leads (t₁ ++ u :: t₂) q) (hu : u.call.Stores) :
    t₂ = [] ∧ (∀ v ∈ t₁, ¬ v.call.Stores) ∧ ∃ a, q = .done a := by
  obtain ⟨t', a, h'⟩ := q.exists_leads_done
  have hc := leads_token (h.trans h')
  rw [List.append_assoc, List.cons_append] at hc
  obtain ⟨ht, hquiet⟩ := hc.last hu
  obtain ⟨rfl, rfl⟩ := List.append_eq_nil_iff.mp ht
  exact ⟨rfl, hquiet, a, h'.nil⟩

/-- Of the turns of a request that is entitled, only the last stores a pair. -/
theorem Entitles.eq_of_mem {t : List Turn} {owner : Owner} {supersedes : Option Int}
    {pair pair' : NewPair} {now : Instant} {stored stored' : Except PairFault IssuedPair}
    (h : Entitles basic r t owner supersedes)
    (hmem : ⟨.storePair pair, stored⟩ ∈ t ++ issuing pair' now stored') :
    pair = pair' ∧ stored = stored' := by
  rcases List.mem_append.mp hmem with hmem | hmem
  · exact absurd trivial (h.quiet _ hmem)
  · simpa [issuing] using hmem

/-- A pair that is stored has been issued. -/
theorem Course.of_mem {t : List Turn} {a : Except Failure TokenResponse}
    {pair : NewPair} {stored : Except PairFault IssuedPair} (h : Course lifetimes basic r t a)
    (hmem : ⟨.storePair pair, stored⟩ ∈ t) :
    ∃ e now, t = e ++ issuing pair now stored ∧ Entitles basic r e pair.owner pair.supersedes ∧
      a = conclude lifetimes pair stored := by
  cases h with
  | refused hr => exact absurd trivial (hr.2 _ hmem)
  | @issued e pair' now stored' he hpair =>
    obtain ⟨rfl, rfl⟩ := he.eq_of_mem hmem
    exact ⟨e, now, rfl, he, rfl⟩

/-- A pair is made at the instant that has been read for it. -/
theorem Course.pair_eq {t : List Turn} {a : Except Failure TokenResponse} {pair : NewPair}
    {now : Instant} {stored : Except PairFault IssuedPair}
    (h : Course lifetimes basic r (t ++ issuing pair now stored) a) :
    pair = pairAt lifetimes pair.owner pair.supersedes now pair.refreshToken pair.accessToken := by
  generalize ht : t ++ issuing pair now stored = u at h
  cases h with
  | refused h =>
    subst ht
    exact absurd trivial (h.2 ⟨.storePair pair, stored⟩ (by simp [issuing]))
  | @issued e pair' now' stored' he hpair =>
    have hsame := (List.append_inj' ht rfl).2
    simp only [issuing, List.cons.injEq, Turn.mk.injEq, heq_eq_eq, true_and, and_true,
      Call.storePair.injEq] at hsame
    obtain ⟨rfl, -, -, rfl, -⟩ := hsame
    exact hpair

/-- A request that succeeds has been issued a pair. -/
theorem Course.of_ok {t : List Turn} {res : TokenResponse}
    (h : Course lifetimes basic r t (.ok res)) :
    ∃ e pair now issued, t = e ++ issuing pair now (.ok issued) ∧
      Entitles basic r e pair.owner pair.supersedes ∧ res = issued.response lifetimes pair := by
  generalize ha : Except.ok res = a at h
  cases h with
  | refused hr =>
    obtain ⟨⟨f, rfl⟩, -⟩ := hr
    cases ha
  | @issued e pair now stored he hpair =>
    cases stored with
    | error f => cases ha
    | ok issued =>
      cases ha
      exact ⟨e, pair, now, issued, rfl, he, rfl⟩

/-- Nobody is granted anything without being asked. -/
theorem token_ne_ok {res : TokenResponse} : token lifetimes basic r ≠ .done (.ok res) := by
  intro h
  have hleads : (token lifetimes basic r).Leads [] (.done (.ok res)) := by
    rw [h]
    exact .refl _
  obtain ⟨e, pair, now, issued, ht, -, -⟩ := (leads_token hleads).of_ok
  simp [issuing] at ht

/-- A request succeeds with the turn that puts its pair into the store, and with no other. -/
theorem token_succeeds_iff {t : List Turn} {u : Turn} {q : Program (Except Failure TokenResponse)}
    (h : (token lifetimes basic r).Leads (t ++ [u]) q) :
    (∃ res, q = .done (.ok res)) ↔ ∃ p, u.stored? = some p := by
  constructor
  · rintro ⟨res, rfl⟩
    obtain ⟨e, pair, now, issued, ht, -, -⟩ := (leads_token h).of_ok
    refine ⟨(pair, issued), Turn.stored?_eq_some.mpr ?_⟩
    rw [show issuing pair now (.ok issued) = [⟨.now, now⟩, ⟨.freshToken, pair.refreshToken⟩,
      ⟨.freshToken, pair.accessToken⟩] ++ [⟨.storePair pair, .ok issued⟩] from rfl,
      ← List.append_assoc] at ht
    simpa using (List.append_inj' ht rfl).2
  · rintro ⟨p, hp⟩
    obtain rfl := Turn.stored?_eq_some.mp hp
    obtain ⟨-, -, a, rfl⟩ := token_last h trivial
    have hmem : ⟨.storePair p.1, .ok p.2⟩ ∈ t ++ [⟨.storePair p.1, .ok p.2⟩] := by simp
    obtain ⟨e, now, -, -, rfl⟩ := (leads_token h).of_mem hmem
    exact ⟨_, rfl⟩

/-- Whoever presents a secret gets a pair that replaces no other. -/
theorem Entitles.supersedes_eq_none_iff {t : List Turn} {owner : Owner} {supersedes : Option Int}
    (h : Entitles basic r t owner supersedes) :
    supersedes = none ↔
      r.grantType ∈ [GrantType.password.name, GrantType.clientCredentials.name] := by
  cases h with
  | password hg => simp [hg]
  | clientCredentials hg => simp [hg]
  | refreshToken hg =>
    rw [hg]
    exact iff_of_false nofun (by decide)

/-- In a request that is done, a pair has been stored if the turns began with such as entitle to
it, and only then. -/
theorem token_stores_iff {t : List Turn} {a : Except Failure TokenResponse}
    (h : (token lifetimes basic r).Leads t (.done a)) {owner : Owner} {supersedes : Option Int} :
    (∃ pair stored, ⟨.storePair pair, stored⟩ ∈ t ∧
      pair.owner = owner ∧ pair.supersedes = supersedes) ↔
    ∃ e, Entitles basic r e owner supersedes ∧ e <+: t := by
  constructor
  · rintro ⟨pair, stored, hmem, rfl, rfl⟩
    obtain ⟨e, now, rfl, he, -⟩ := (leads_token h).of_mem hmem
    exact ⟨e, he, List.prefix_append e _⟩
  · rintro ⟨e, he, t', rfl⟩
    obtain ⟨pair, now, stored, hpair, rfl, -⟩ := leads_issue.mp (he.leads.rest h)
    refine ⟨pair, stored, by simp [issuing], ?_, ?_⟩
    · rw [hpair]
      rfl
    · rw [hpair]
      rfl

/-- Where no grant that is known has been posted, nothing is asked. -/
theorem route_of_unsupported {q : Http.Request} (hp : q.path = Http.tokenPath)
    (hm : q.method = "POST")
    (hq : q.form? = none ∨ ∃ form ∈ q.form?, ∀ g : GrantType, form.grantType ≠ g.name) :
    ∃ res, Http.route lifetimes q = .done res ∧ res.status = 400 ∧
      res.body = Wire.write (ErrorBody.mk "Invalid grant type") := by
  refine ⟨.ofFailure .unsupportedGrant, ?_, by simp; rfl, by simp; rfl⟩
  have hg : ∀ g : GrantType, (q.form?.getD {}).grantType ≠ g.name := by
    rcases hq with hq | ⟨form, hq, hg⟩
    · intro g
      rw [hq]
      cases g <;> decide
    · rw [Option.mem_def.mp hq]
      exact hg
  simp only [Http.route, hp, hm, Http.exchange, token_of_unsupported hg]
  rfl

/-- A request has a pair stored exactly if it is entitled to one.  However its surroundings reply,
it takes turns that are its own, of which at most one stores a pair, and that the last.  Turns that
entitle to a pair are turns of the request, after which it does nothing but issue: it reads the
clock, draws two tokens and has the pair made of these stored, whatever comes of that.  So in a
request that is done a pair has been stored for an owner if and only if the turns began with such
as entitle to it.  A grant of another kind is turned away before anything is asked. -/
theorem stores_iff_entitled (lifetimes : Lifetimes) (basic : Option Credentials)
    (r : TokenRequest) :
    (∀ (σ : Type) (answer : (c : Call) → StateM σ c.Reply) (s : σ), ∃ t,
      (token lifetimes basic r).Leads t (.done ((token lifetimes basic r).run answer s).1) ∧
        (token lifetimes basic r).run (Program.recorded answer) ([], s) =
          (((token lifetimes basic r).run answer s).1, t,
            ((token lifetimes basic r).run answer s).2)) ∧
    (∀ t₁ u t₂ q, (token lifetimes basic r).Leads (t₁ ++ u :: t₂) q → u.call.Stores →
      t₂ = [] ∧ (∀ v ∈ t₁, ¬ v.call.Stores) ∧ ∃ a, q = .done a) ∧
    (∀ e owner supersedes, Entitles basic r e owner supersedes →
      (token lifetimes basic r).Leads e (issue lifetimes owner supersedes) ∧
      ∀ pair now stored,
        pair = pairAt lifetimes owner supersedes now pair.refreshToken pair.accessToken →
        (token lifetimes basic r).Leads (e ++ issuing pair now stored)
          (.done (conclude lifetimes pair stored))) ∧
    (∀ t a, (token lifetimes basic r).Leads t (.done a) → ∀ owner supersedes,
      (∃ pair stored, ⟨.storePair pair, stored⟩ ∈ t ∧
        pair.owner = owner ∧ pair.supersedes = supersedes) ↔
      ∃ e, Entitles basic r e owner supersedes ∧ e <+: t) ∧
    ((∀ g : GrantType, r.grantType ≠ g.name) →
      token lifetimes basic r = .done (.error .unsupportedGrant)) ∧
    ∀ q : Http.Request, q.path = Http.tokenPath → q.method = "POST" →
      (q.form? = none ∨ ∃ form ∈ q.form?, ∀ g : GrantType, form.grantType ≠ g.name) →
      ∃ res, Http.route lifetimes q = .done res ∧ res.status = 400 ∧
        res.body = Wire.write (ErrorBody.mk "Invalid grant type") := by
  refine ⟨fun σ answer s ↦ ?_, fun t₁ u t₂ q ↦ token_last,
    fun e owner supersedes he ↦ ⟨he.leads, fun pair now stored ↦ he.leads_issuing⟩,
    fun t a h owner supersedes ↦ token_stores_iff h, fun h ↦ token_of_unsupported h,
    fun q ↦ route_of_unsupported⟩
  obtain ⟨t, ht, hrun⟩ := Program.run_recorded answer (token lifetimes basic r) [] s
  exact ⟨t, ht, hrun⟩

/-- A password and a client's secret are verified and a refresh token is found, and each time a pair
is stored; an empty form is turned away. -/
theorem stores_iff_entitled_each_grant :
    let lifetimes : Lifetimes := ⟨60, 3600⟩
    let stored : Except PairFault IssuedPair := .ok ⟨5, 8, []⟩
    let Issued (basic : Option Credentials) (r : TokenRequest) (e : List Turn) (owner : Owner)
        (supersedes : Option Int) : Prop :=
      ∃ pair t, pair = pairAt lifetimes owner supersedes ⟨6, 0⟩ "new" "newer" ∧
        t = e ++ issuing pair ⟨6, 0⟩ stored ∧
        (token lifetimes basic r).Leads t (.done (conclude lifetimes pair stored)) ∧
        ∃ pair stored, ⟨.storePair pair, stored⟩ ∈ t ∧
          pair.owner = owner ∧ pair.supersedes = supersedes
    Issued none { grantType := "password", username := some "ann", password := some "pw" }
      [⟨.user "ann", .ok (some ⟨1, "ann", "h"⟩)⟩, ⟨.verify "pw" "h", true⟩] (.user 1) none ∧
    Issued (some ⟨"app", "pw"⟩) { grantType := "client_credentials" }
      [⟨.client "app", .ok (some ⟨2, "app", "h"⟩)⟩, ⟨.verify "pw" "h", true⟩] (.client 2) none ∧
    Issued none { grantType := "refresh_token", refreshToken := some "old" }
      [⟨.refreshToken "old", .ok (some ⟨7, "old", ⟨9, 0⟩⟩)⟩, ⟨.now, ⟨5, 0⟩⟩,
        ⟨.accessToken 7, .ok (some ⟨4, "older", ⟨9, 0⟩, none, some 1, 7⟩)⟩] (.user 1) (some 7) ∧
    ∃ res, Http.route lifetimes { method := "POST", target := "/v1/oauth/tokens" } = .done res ∧
      res.status = 400 ∧ res.body = Wire.write (ErrorBody.mk "Invalid grant type") := by
  intro lifetimes stored Issued
  have hissued {basic : Option Credentials} {r : TokenRequest} {e : List Turn} {owner : Owner}
      {supersedes : Option Int} (he : Entitles basic r e owner supersedes) :
      Issued basic r e owner supersedes := by
    obtain ⟨-, -, hleads, hiff, -⟩ := stores_iff_entitled lifetimes basic r
    have ht := (hleads e owner supersedes he).2
      (pairAt lifetimes owner supersedes ⟨6, 0⟩ "new" "newer") ⟨6, 0⟩ stored rfl
    exact ⟨_, _, rfl, rfl, ht, (hiff _ _ ht owner supersedes).mpr ⟨e, he, List.prefix_append e _⟩⟩
  obtain ⟨-, -, -, -, -, hroute⟩ := stores_iff_entitled lifetimes none {}
  exact ⟨hissued (.password rfl rfl), hissued (.clientCredentials rfl rfl),
    hissued (.refreshToken rfl (by decide) rfl rfl),
    hroute _ (by decide +kernel) rfl (.inl (by decide +kernel))⟩

end Endpoint

end TokenMint
