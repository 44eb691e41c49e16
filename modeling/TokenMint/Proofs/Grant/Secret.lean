import TokenMint.Proofs.Grant.Turn
import TokenMint.Proofs.Store.Readiness
import TokenMint.Service

/-! # A secret at a service

Who presents the name of a principal is looked up, and the secret that comes with the name is
verified against the hash that has been found.  If it has this hash, a pair is issued to the
principal; if not, the request is refused, and the service stays as it is. -/

namespace TokenMint

open Store (Database Fault Tables)

/-- A principal is registered under a name, with the hash of a secret. -/
def Store.Tables.Registers (t : Tables) (name hash : String) : Owner → Prop
  | .user id => ⟨id, name, hash⟩ ∈ t.users.rows
  | .client id => ⟨id, name, hash⟩ ∈ t.clients.rows

/-- A request presents credentials by the grant that such a principal uses. -/
def TokenRequest.Presents (r : TokenRequest) (basic : Option Credentials) (c : Credentials) :
    Owner → Prop
  | .user _ => r.grantType = GrantType.password.name ∧ .resolve basic r.username r.password = c
  | .client _ =>
    r.grantType = GrantType.clientCredentials.name ∧ .resolve basic r.clientId r.clientSecret = c

instance (t : Tables) (name hash : String) : ∀ o, Decidable (t.Registers name hash o)
  | .user id => inferInstanceAs (Decidable (⟨id, name, hash⟩ ∈ t.users.rows))
  | .client id => inferInstanceAs (Decidable (⟨id, name, hash⟩ ∈ t.clients.rows))

namespace Store.Database

variable {db : Database}

theorem eq_of_user?_eq_ok (hi : db.tables.Integrity) {u : User} (hu : u ∈ db.tables.users.rows)
    {found : Option User} (h : user? u.username db = .ok found) : found = some u := by
  obtain ⟨_, -, h⟩ := bind_eq_ok.mp h
  cases h
  exact find?_key hi.users.keys hu

theorem eq_of_client?_eq_ok (hi : db.tables.Integrity) {c : Client}
    (hc : c ∈ db.tables.clients.rows) {found : Option Client}
    (h : client? c.clientId db = .ok found) : found = some c := by
  obtain ⟨_, -, h⟩ := bind_eq_ok.mp h
  cases h
  exact find?_key hi.clients.keys hc

/-- A look-up by name fails only where no statement can be run. -/
theorem Ready.user?_ne_error (h : db.Ready) (name : String) (f : Fault) :
    user? name db ≠ .error f := by
  simp [user?, h.require, bind, Except.bind, pure, Except.pure]

theorem Ready.client?_ne_error (h : db.Ready) (name : String) (f : Fault) :
    client? name db ≠ .error f := by
  simp [client?, h.require, bind, Except.bind, pure, Except.pure]

end Store.Database

namespace Endpoint

/-- Goes on with what a look-up has found of a principal. -/
def settle (lifetimes : Lifetimes) (secret : String) :
    Except Failure (Option (Owner × String)) → Program (Except Failure TokenResponse)
  | .error f => .done (.error f)
  | .ok found => grantTo lifetimes secret found

theorem passwordGrant_eq (lifetimes : Lifetimes) (c : Credentials) :
    passwordGrant lifetimes c = .ask (.user c.identifier) fun r ↦
      settle lifetimes c.secret (r.map (·.map fun u ↦ (.user u.id, u.hash))) := by
  refine congrArg (Program.ask _) (funext fun r ↦ ?_)
  cases r <;> rfl

theorem clientGrant_eq (lifetimes : Lifetimes) (c : Credentials) :
    clientGrant lifetimes c = .ask (.client c.identifier) fun r ↦
      settle lifetimes c.secret (r.map (·.map fun k ↦ (.client k.id, k.hash))) := by
  refine congrArg (Program.ask _) (funext fun r ↦ ?_)
  cases r <;> rfl

end Endpoint

namespace Service

variable {env : Surroundings} {lifetimes : Lifetimes} {o : Outage} {s : Service}

/-- What a query is bound to find is found, unless statements cannot be run or this one fails. -/
theorem look_of_found {α β : Type} {q : Store.Query (Option α)} {a : α} (what : String) (g : α → β)
    (hfound : ∀ {found}, q s.database = .ok found → found = some a)
    (hready : ∀ f, s.database.Ready → q s.database ≠ .error f) :
    (s.look o what q).map (·.map g) = .ok (some (g a)) ∨
      (∃ f, (s.look o what q).map (·.map g) = .error f) ∧
        ¬ (s.database.Ready ∧ o.query = none) := by
  unfold look Database.look
  cases o.query with
  | some f =>
    refine .inr ⟨⟨_, rfl⟩, ?_⟩
    rintro ⟨-, hnone⟩
    cases hnone
  | none =>
    cases hq : q s.database with
    | error f =>
      refine .inr ⟨⟨f.ofQuery what, by simp [hq, Except.map]⟩, ?_⟩
      rintro ⟨hr, -⟩
      exact hready f hr hq
    | ok found =>
      rw [hfound hq] at hq
      exact .inl (by simp [hq, Except.map])

/-- What comes of a secret is decided by its verification against the hash that has been found. -/
theorem run_grantTo_some (secret : String) (owner : Owner) (hash : String) :
    (Endpoint.grantTo lifetimes secret (some (owner, hash))).run (answer env o) s =
      if env.verify secret hash then (Endpoint.issue lifetimes owner none).run (answer env o) s
      else (.error .unauthorized, s) := by
  change (Program.run (answer env o) (ite (env.verify secret hash = true) _ _) s) = _
  split <;> rfl

theorem run_settle {secret hash : String} {owner : Owner} {P : Prop}
    {found : Except Failure (Option (Owner × String))}
    (h : found = .ok (some (owner, hash)) ∨ (∃ f, found = .error f) ∧ P) :
    (∃ f, (Endpoint.settle lifetimes secret found).run (answer env o) s = (.error f, s)) ∧ P ∨
    (Endpoint.settle lifetimes secret found).run (answer env o) s =
      if env.verify secret hash then (Endpoint.issue lifetimes owner none).run (answer env o) s
      else (.error .unauthorized, s) := by
  rcases h with rfl | ⟨⟨f, rfl⟩, hP⟩
  · exact .inr (run_grantTo_some secret owner hash)
  · exact .inl ⟨⟨f, rfl⟩, hP⟩

/-- A secret presented for a principal who is registered is verified against the hash of that
principal, unless the look-up fails and the request with it. -/
theorem run_token_of_presents (env : Surroundings) (lifetimes : Lifetimes) (o : Outage)
    (hi : s.database.tables.Integrity) {name hash secret : String} {owner : Owner}
    (hreg : s.database.tables.Registers name hash owner)
    {basic : Option Credentials} {request : TokenRequest}
    (hp : request.Presents basic ⟨name, secret⟩ owner) :
    (∃ f, (Endpoint.token lifetimes basic request).run (answer env o) s = (.error f, s)) ∧
      ¬ (s.database.Ready ∧ o.query = none) ∨
    (Endpoint.token lifetimes basic request).run (answer env o) s =
      if env.verify secret hash then (Endpoint.issue lifetimes owner none).run (answer env o) s
      else (.error .unauthorized, s) := by
  cases owner with
  | user id =>
    obtain ⟨hg, hc⟩ := hp
    have htoken : Endpoint.token lifetimes basic request =
        Endpoint.passwordGrant lifetimes ⟨name, secret⟩ := by
      rw [Endpoint.token, GrantType.parse_eq_ok.mpr hg, ← hc]
    rw [htoken, Endpoint.passwordGrant_eq, Program.run_ask]
    exact run_settle (look_of_found "user" _ (Database.eq_of_user?_eq_ok hi hreg)
      fun f hr ↦ hr.user?_ne_error name f)
  | client id =>
    obtain ⟨hg, hc⟩ := hp
    have htoken : Endpoint.token lifetimes basic request =
        Endpoint.clientGrant lifetimes ⟨name, secret⟩ := by
      rw [Endpoint.token, GrantType.parse_eq_ok.mpr hg, ← hc]
    rw [htoken, Endpoint.clientGrant_eq, Program.run_ask]
    exact run_settle (look_of_found "client" _ (Database.eq_of_client?_eq_ok hi hreg)
      fun f hr ↦ hr.client?_ne_error name f)

end Service

end TokenMint
