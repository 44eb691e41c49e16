import TokenMint.Proofs.Grant.Issue
import TokenMint.Proofs.Grant.Refresh
import TokenMint.Proofs.Grant.Secret
import TokenMint.Proofs.System.Run

/-! # The verdict on a request

Whether a request gets a pair, and whose, is settled before anything is stored, by look-ups, by the
clock and by the verifier.  So the verdict is a function of the database as the request finds it,
and to run the request is to issue a pair to whoever the verdict names, or to report its failure:
`Service.follows_token`. -/

namespace TokenMint

open Store (AccessRow Database RefreshRow TableName Tables bind_eq_ok mapError_eq_ok)

/-- The placeholder that a service gives out if it is asked. -/
def Service.offered (env : Surroundings) (s : Service) : Except Failure String :=
  match s.placeholder with
  | some hash => .ok hash
  | none => env.placeholder

theorem Service.obtainPlaceholder_fst (env : Surroundings) (s : Service) :
    (s.obtainPlaceholder env).1 = s.offered env := by
  unfold offered obtainPlaceholder
  cases s.placeholder with
  | some hash => rfl
  | none => cases env.placeholder <;> rfl

/-- Once the placeholder has been made, the same is given out. -/
theorem Service.offered_obtainPlaceholder (env : Surroundings) (s : Service) :
    (s.obtainPlaceholder env).2.offered env = s.offered env := by
  unfold offered obtainPlaceholder
  cases hs : s.placeholder with
  | some hash => simp [hs]
  | none => cases he : env.placeholder <;> simp [hs]

theorem Store.Database.closed_of_require {db : Database} {ts : List TableName}
    (h : db.require ts = .ok ()) : db.closed = false := by
  cases hc : db.closed with
  | false => rfl
  | true =>
    rw [Database.require, if_pos hc] at h
    cases h

/-- The refresh token that a request presents, if it asks for an exchange. -/
def TokenRequest.refreshes? (r : TokenRequest) : Option String :=
  if r.grantType = GrantType.refreshToken.name then some (r.refreshToken.getD "") else none

namespace Endpoint

variable (verify : String → String → Bool) (placeholder : Except Failure String) (now : Instant)

/-- The verdict on a secret, given what a look-up has found of its principal. -/
def judgeSecret (secret : String) :
    Except Failure (Option (Owner × String)) → Except Failure (Owner × Option Int)
  | .error f => .error f
  | .ok none => placeholder.bind fun _ ↦ .error .unauthorized
  | .ok (some (owner, hash)) =>
    if verify secret hash then .ok (owner, none) else .error .unauthorized

/-- The verdict on a refresh token at an instant. -/
def judgeRefresh (token : String) (db : Database) : Except Failure (Owner × Option Int) :=
  match db.look "refresh token" (Database.refreshToken? token) with
  | .error f => .error f
  | .ok none => .error (.invalidGrant "Refresh token not found")
  | .ok (some found) =>
    if found.expired now then .error (.invalidGrant "Refresh token expired")
    else
      match db.look "access token" (Database.accessToken? found.id) with
      | .error f => .error f
      | .ok access =>
        match access.bind (·.owner?) with
        | none => .error (.invalidGrant "Access token with refresh token not found")
        | some owner => .ok (owner, some found.id)

/-- The verdict on a request: who gets a pair, and in place of which refresh token. -/
def judge (basic : Option Credentials) (r : TokenRequest) (db : Database) :
    Except Failure (Owner × Option Int) :=
  match GrantType.parse r.grantType with
  | .error f => .error f
  | .ok .password =>
    let c := Credentials.resolve basic r.username r.password
    judgeSecret verify placeholder c.secret
      ((db.look "user" (Database.user? c.identifier)).map (·.map fun u ↦ (.user u.id, u.hash)))
  | .ok .clientCredentials =>
    let c := Credentials.resolve basic r.clientId r.clientSecret
    judgeSecret verify placeholder c.secret
      ((db.look "client" (Database.client? c.identifier)).map
        (·.map fun k ↦ (.client k.id, k.hash)))
  | .ok .refreshToken => judgeRefresh now (r.refreshToken.getD "") db

variable {verify placeholder now} {basic : Option Credentials} {r : TokenRequest} {db : Database}

/-! ## What the verdict hangs on -/

/-- Of the tokens in the database, the verdict hangs on those alone that a look-up for the presented
refresh token finds. -/
theorem judge_congr {t : Tables} (husers : t.users = db.tables.users)
    (hclients : t.clients = db.tables.clients)
    (hrefresh : ∀ token ∈ r.refreshes?, t.refreshTokens.rows.find? (·.token = token) =
      db.tables.refreshTokens.rows.find? (·.token = token))
    (haccess : ∀ token ∈ r.refreshes?, ∀ row ∈ db.tables.refreshTokens.rows, row.token = token →
      t.accessTokens.rows.find? (·.refreshTokenId = row.id) =
        db.tables.accessTokens.rows.find? (·.refreshTokenId = row.id)) :
    judge verify placeholder now basic r { db with tables := t } =
      judge verify placeholder now basic r db := by
  have huser (name : String) : Database.user? name { db with tables := t } =
      Database.user? name db := by
    change Except.bind (db.require _) (fun _ ↦ .ok (t.users.rows.find? _)) = _
    rw [husers]
    rfl
  have hclient (name : String) : Database.client? name { db with tables := t } =
      Database.client? name db := by
    change Except.bind (db.require _) (fun _ ↦ .ok (t.clients.rows.find? _)) = _
    rw [hclients]
    rfl
  unfold judge
  cases hg : GrantType.parse r.grantType with
  | error f => rfl
  | ok g =>
    cases g with
    | password => simp only [Database.look, huser]
    | clientCredentials => simp only [Database.look, hclient]
    | refreshToken =>
      have htoken : r.refreshToken.getD "" ∈ r.refreshes? :=
        if_pos (GrantType.parse_eq_ok.mp hg)
      generalize r.refreshToken.getD "" = token at htoken
      have hlook : Database.refreshToken? token { db with tables := t } =
          Database.refreshToken? token db := by
        change Except.bind (db.require _)
          (fun _ ↦ Database.readable _ (t.refreshTokens.rows.find? _)) = _
        rw [hrefresh token htoken]
        rfl
      simp only [judgeRefresh, Database.look, hlook]
      cases hq : Database.refreshToken? token db with
      | error f => rfl
      | ok found =>
        cases found with
        | none => rfl
        | some found =>
          obtain ⟨row, hrow, htok, hread⟩ := Database.refreshToken?_eq_ok hq
          have hid := (RefreshRow.token?_eq_some.mp hread).1
          have hpartner : Database.accessToken? found.id { db with tables := t } =
              Database.accessToken? found.id db := by
            change Except.bind (db.require _)
              (fun _ ↦ Database.readable _ (t.accessTokens.rows.find? _)) = _
            rw [← hid, haccess token htoken row hrow htok]
            rfl
          simp only [Except.mapError, hpartner]

theorem judgeSecret_eq_ok {secret : String} {found : Except Failure (Option (Owner × String))}
    {owner : Owner} {supersedes : Option Int}
    (h : judgeSecret verify placeholder secret found = .ok (owner, supersedes)) :
    supersedes = none ∧ ∃ hash, found = .ok (some (owner, hash)) := by
  rcases found with f | _ | ⟨owner', hash⟩
  · cases h
  · cases hp : placeholder with
    | error f => simp [judgeSecret, hp, Except.bind] at h
    | ok hash => simp [judgeSecret, hp, Except.bind] at h
  · unfold judgeSecret at h
    dsimp only at h
    split at h
    · cases h
      exact ⟨rfl, hash, rfl⟩
    · cases h

theorem judgeRefresh_eq_ok {token : String} {owner : Owner} {supersedes : Option Int}
    (h : judgeRefresh now token db = .ok (owner, supersedes)) :
    ∃ found access, Database.refreshToken? token db = .ok (some found) ∧
      Database.accessToken? found.id db = .ok (some access) ∧ access.owner? = some owner ∧
        supersedes = some found.id := by
  unfold judgeRefresh at h
  split at h
  · cases h
  · cases h
  · rename_i found hfound
    split at h
    · cases h
    · split at h
      · cases h
      · rename_i access haccess
        split at h
        · cases h
        · rename_i owner' ho
          cases h
          obtain ⟨access, rfl, ho⟩ := Option.bind_eq_some_iff.mp ho
          exact ⟨found, access, mapError_eq_ok.mp hfound, mapError_eq_ok.mp haccess, ho, rfl⟩

/-- What a look-up has found, with its owner and hash, is a row. -/
theorem found_of_look {α : Type} {what : String} {q : Store.Query (Option α)}
    {g : α → Owner × String} {owner : Owner} {hash : String}
    (h : (db.look what q).map (·.map g) = .ok (some (owner, hash))) :
    ∃ a, q db = .ok (some a) ∧ g a = (owner, hash) := by
  unfold Database.look at h
  cases hq : q db with
  | error f =>
    rw [hq] at h
    cases h
  | ok found =>
    rw [hq] at h
    obtain ⟨a, rfl, ha⟩ := Option.map_eq_some_iff.mp (Except.ok.inj h)
    exact ⟨a, rfl, ha⟩

/-- A pair is granted to an owner who has a row, in place of the presented refresh token if that is
what entitles to it. -/
theorem of_judge_eq_ok (hi : db.tables.Integrity) {owner : Owner} {supersedes : Option Int}
    (h : judge verify placeholder now basic r db = .ok (owner, supersedes)) :
    db.closed = false ∧ db.tables.HasOwner owner ∧
      ∀ id ∈ supersedes, ∃ row ∈ db.tables.refreshTokens.rows,
        row.id = id ∧ row.token ∈ r.refreshes? := by
  unfold judge at h
  cases hg : GrantType.parse r.grantType with
  | error f =>
    rw [hg] at h
    cases h
  | ok g =>
    rw [hg] at h
    cases g with
    | password =>
      obtain ⟨rfl, hash, hfound⟩ := judgeSecret_eq_ok h
      obtain ⟨u, hu, howner⟩ := found_of_look hfound
      obtain ⟨_, hopen, hfind⟩ := bind_eq_ok.mp hu
      cases howner
      exact ⟨Database.closed_of_require hopen,
        ⟨u, List.mem_of_find?_eq_some (Except.ok.inj hfind), rfl⟩, nofun⟩
    | clientCredentials =>
      obtain ⟨rfl, hash, hfound⟩ := judgeSecret_eq_ok h
      obtain ⟨c, hc, howner⟩ := found_of_look hfound
      obtain ⟨_, hopen, hfind⟩ := bind_eq_ok.mp hc
      cases howner
      exact ⟨Database.closed_of_require hopen,
        ⟨c, List.mem_of_find?_eq_some (Except.ok.inj hfind), rfl⟩, nofun⟩
    | refreshToken =>
      obtain ⟨found, access, hrefresh, haccess, howner, rfl⟩ := judgeRefresh_eq_ok h
      obtain ⟨_, hopen, -⟩ := bind_eq_ok.mp hrefresh
      obtain ⟨row, hrow, htoken, hread⟩ := Database.refreshToken?_eq_ok hrefresh
      obtain ⟨a, ha, -, haread⟩ := Database.accessToken?_eq_ok haccess
      obtain ⟨o, hc, hu, ho⟩ := hi.owner a ha
      obtain ⟨-, -, -, hclient, huser, -⟩ := AccessRow.token?_eq_some.mp haread
      have hsame : access.owner? = some o :=
        Owner.ofColumns?_eq_some.mpr ⟨hclient ▸ hc, huser ▸ hu⟩
      obtain rfl : o = owner := Option.some.inj (hsame.symm.trans howner)
      refine ⟨Database.closed_of_require hopen, ho, ?_⟩
      rintro id ⟨⟩
      refine ⟨row, hrow, (RefreshRow.token?_eq_some.mp hread).1, ?_⟩
      exact htoken ▸ if_pos (GrantType.parse_eq_ok.mp hg)

end Endpoint

namespace Service

variable {env : Surroundings} {lifetimes : Lifetimes} {s : Service}

/-- Nothing of a service has changed but what has been read of the clock and whether the placeholder
has been made. -/
structure Undone (env : Surroundings) (s s' : Service) : Prop where
  database : s'.database = s.database
  drawn : s'.drawn = s.drawn
  offered : s'.offered env = s.offered env

theorem Undone.refl (env : Surroundings) (s : Service) : s.Undone env s := ⟨rfl, rfl, rfl⟩

/-- To run a program follows a verdict: it ends with the failure, or goes on to issue a pair, and a
refresh token has cost one look at the clock by then. -/
inductive Follows (env : Surroundings) (lifetimes : Lifetimes) (s : Service)
    (p : Program (Except Failure TokenResponse)) : Except Failure (Owner × Option Int) → Prop
  | refused {f : Failure} {s' : Service} (hs : s.Undone env s')
    (hrun : p.run (answer env {}) s = (.error f, s')) : Follows env lifetimes s p (.error f)
  | granted {owner : Owner} {supersedes : Option Int} {s' : Service} (hs : s.Undone env s')
    (hreadings : s'.readings = s.readings + if supersedes.isSome then 1 else 0)
    (hrun : p.run (answer env {}) s =
      (Endpoint.issue lifetimes owner supersedes).run (answer env {}) s') :
    Follows env lifetimes s p (.ok (owner, supersedes))

/-- A question that leaves the service as it is puts off what is to come. -/
theorem Follows.ask {c : Call} {next : c.Reply → Program (Except Failure TokenResponse)}
    {verdict : Except Failure (Owner × Option Int)} {r : c.Reply} (hr : s.answer env {} c = (r, s))
    (h : s.Follows env lifetimes (next r) verdict) :
    s.Follows env lifetimes (.ask c next) verdict := by
  have hask : (Program.ask c next).run (answer env {}) s = (next r).run (answer env {}) s := by
    rw [Program.run_ask, hr]
  cases h with
  | refused hs hrun => exact .refused hs (hask.trans hrun)
  | granted hs hreadings hrun => exact .granted hs hreadings (hask.trans hrun)

/-- A secret of nobody is refused, or the placeholder cannot be made. -/
theorem run_grantTo_none (lifetimes : Lifetimes) (secret : String) {r : Except Failure String}
    (h : s.offered env = r) :
    (Endpoint.grantTo lifetimes secret none).run (answer env {}) s =
      (r.bind fun _ ↦ .error .unauthorized, (s.obtainPlaceholder env).2) := by
  have hask : s.answer env {} .placeholder = (r, (s.obtainPlaceholder env).2) :=
    Prod.ext ((obtainPlaceholder_fst env s).trans h) rfl
  unfold Endpoint.grantTo
  change Program.run (answer env {}) (.ask .placeholder _) s = _
  rw [Program.run_ask, hask]
  cases r <;> rfl

theorem follows_settle (secret : String) (found : Except Failure (Option (Owner × String))) :
    s.Follows env lifetimes (Endpoint.settle lifetimes secret found)
      (Endpoint.judgeSecret env.verify (s.offered env) secret found) := by
  rcases found with f | _ | ⟨owner, hash⟩
  · exact .refused (.refl env s) rfl
  · -- nobody has been found, and the placeholder is asked for
    have hs : s.Undone env (s.obtainPlaceholder env).2 :=
      ⟨obtainPlaceholder_database env s, by rw [obtainPlaceholder_eq],
        offered_obtainPlaceholder env s⟩
    cases hoffered : s.offered env with
    | error f => exact .refused hs (run_grantTo_none lifetimes secret hoffered)
    | ok hash => exact .refused hs (run_grantTo_none lifetimes secret hoffered)
  · have hrun := @run_grantTo_some env lifetimes {} s secret owner hash
    unfold Endpoint.judgeSecret
    dsimp only
    split at hrun
    · rename_i hverified
      rw [if_pos hverified]
      exact .granted (.refl env s) rfl hrun
    · rename_i hverified
      rw [if_neg hverified]
      exact .refused (.refl env s) hrun

theorem follows_refreshGrant (token : String) :
    s.Follows env lifetimes (Endpoint.refreshGrant lifetimes token)
      (Endpoint.judgeRefresh (env.clock s.readings) token s.database) := by
  have hread : s.Undone env { s with readings := s.readings + 1 } :=
    ⟨rfl, rfl, rfl⟩
  rw [Endpoint.refreshGrant_eq]
  refine .ask (r := s.database.look "refresh token" (Database.refreshToken? token)) rfl ?_
  unfold Endpoint.judgeRefresh
  rcases s.database.look "refresh token" (Database.refreshToken? token) with f | _ | found
  · exact .refused (.refl env s) rfl
  · exact .refused (.refl env s) rfl
  · dsimp only
    split
    · rename_i hold
      refine .refused hread ?_
      rw [Program.run_ask]
      change Program.run (answer env {}) (ite (found.expired (env.clock s.readings) = true) _ _) _ =
        _
      rw [if_pos hold]
      rfl
    · rename_i hfresh
      -- the clock has been read, and the access token is looked up
      have hrun (expired : Program (Except Failure TokenResponse))
          (next : Except Failure (Option AccessToken) → Program (Except Failure TokenResponse)) :
          (Program.ask .now fun now ↦ if found.expired now then expired else
              .ask (.accessToken found.id) next).run (answer env {}) s =
            (next (s.database.look "access token" (Database.accessToken? found.id))).run
              (answer env {}) { s with readings := s.readings + 1 } := by
        rw [Program.run_ask]
        change Program.run (answer env {}) (ite (found.expired (env.clock s.readings) = true) _ _)
          _ = _
        rw [if_neg hfresh]
        rfl
      generalize s.database.look "access token" (Database.accessToken? found.id) = r at hrun
      rcases r with f | access
      · exact .refused hread (hrun _ _)
      · dsimp only
        cases ho : access.bind (·.owner?) with
        | none =>
          refine .refused hread ((hrun _ _).trans ?_)
          simp only [ho]
          rfl
        | some owner =>
          refine .granted hread rfl ((hrun _ _).trans ?_)
          simp only [ho]

/-- A request does what the verdict says. -/
theorem follows_token (env : Surroundings) (lifetimes : Lifetimes) (s : Service)
    (basic : Option Credentials) (r : TokenRequest) :
    s.Follows env lifetimes (Endpoint.token lifetimes basic r)
      (Endpoint.judge env.verify (s.offered env) (env.clock s.readings) basic r s.database) := by
  unfold Endpoint.token Endpoint.judge
  rcases GrantType.parse r.grantType with f | _ | _ | _
  · exact .refused (.refl env s) rfl
  · dsimp only
    rw [Endpoint.passwordGrant_eq]
    exact .ask (r := s.database.look "user" _) rfl (follows_settle _ _)
  · dsimp only
    rw [Endpoint.clientGrant_eq]
    exact .ask (r := s.database.look "client" _) rfl (follows_settle _ _)
  · exact follows_refreshGrant _

end Service

end TokenMint
