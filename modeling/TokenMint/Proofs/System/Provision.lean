import TokenMint.Proofs.CommandLine.Administration
import TokenMint.Proofs.Store.Footprint
import TokenMint.Proofs.System.Principal
import TokenMint.Proofs.System.Secrets

/-! # From the administration to the server

Whom the administration has created, the server accepts.  Both come to the same file, the row of the
new principal stays there until it is deleted, and the hash in this row is one that the secret is
verified against.  So as long as the row is there the server grants whatever is asked with the right
credentials, whatever else has happened in the meantime. -/

namespace TokenMint

open CommandLine
open Store (Database Disk Place Tables)

/-! ## Rows of principals -/

theorem Store.Tables.Registers.hasOwner {t : Tables} {name hash : String} {owner : Owner}
    (h : t.Registers name hash owner) : t.HasOwner owner := by
  cases owner with
  | user id => exact ⟨_, h, rfl⟩
  | client id => exact ⟨_, h, rfl⟩

/-- Another row is taken out, and the principal stays. -/
theorem Store.Tables.Registers.remove {t : Tables} {name hash : String} {owner : Owner}
    (h : t.Registers name hash owner) {n : Store.TableName} {id : Int}
    (hne : (n, id) ≠ (owner.table, owner.id)) : (t.remove n id).Registers name hash owner := by
  cases owner with
  | user i =>
    cases n with
    | users => exact List.mem_filter.mpr ⟨h, decide_eq_true fun heq ↦ hne (congrArg _ heq.symm)⟩
    | _ => exact h
  | client i =>
    cases n with
    | clients => exact List.mem_filter.mpr ⟨h, decide_eq_true fun heq ↦ hne (congrArg _ heq.symm)⟩
    | _ => exact h

/-- The row of a principal goes only if it is deleted. -/
theorem Entry.Tells.registers {x : Entry} {t t' : Tables} (hx : x.Tells t t') {name hash : String}
    {owner : Owner} (h : t.Registers name hash owner)
    (hkept : x.deleted? ≠ some (owner.table, owner.id)) : t'.Registers name hash owner := by
  cases hx with
  | idle => exact h
  | addUser ht =>
    obtain ⟨-, -, rfl⟩ := Tables.addUser_eq_ok ht
    cases owner with
    | user id => exact List.mem_append_left _ h
    | client id => exact h
  | addClient ht =>
    obtain ⟨-, -, rfl⟩ := Tables.addClient_eq_ok ht
    cases owner with
    | user id => exact h
    | client id => exact List.mem_append_left _ h
  | addScope ht =>
    obtain ⟨-, -, rfl⟩ := Tables.addScope_eq_ok ht
    cases owner <;> exact h
  | remove t n id =>
    refine h.remove ?_
    rintro ⟨⟩
    refine hkept (Option.mem_toList.mp (Entry.deleted?_delete.mpr ⟨rfl, ?_⟩))
    exact Tables.count_remove_pos.mpr (Tables.hasOwner_iff.mp h.hasOwner)
  | store hs ht =>
    obtain ⟨husers, hclients, -⟩ := ht.principals_eq
    cases owner with
    | user id =>
      rw [Tables.Registers, husers]
      exact h
    | client id =>
      rw [Tables.Registers, hclients]
      exact h

namespace System

variable {env : Surroundings} {lifetimes : Lifetimes} {σ : System}

/-- What has been deleted stays deleted. -/
theorem deletions_subset_step (σ : System) (e : Event) :
    σ.deletions ⊆ (σ.step env lifetimes e).deletions :=
  ((resume_log [e]).filterMap Entry.deleted?).subset

theorem step_registers {name hash : String} {owner : Owner}
    (h : σ.tables.Registers name hash owner) {e : Event}
    (hkept : (owner.table, owner.id) ∉ (σ.step env lifetimes e).deletions) :
    (σ.step env lifetimes e).tables.Registers name hash owner := by
  rcases σ.step_tells env lifetimes e with ⟨-, htables⟩ | ⟨x, hlog, hx⟩
  · rw [htables]
    exact h
  · refine hx.registers h fun hdeleted ↦ hkept ?_
    rw [deletions, hlog, filterMap_concat, hdeleted]
    exact List.mem_append_right _ (List.mem_singleton_self _)

/-- A principal is registered until it is deleted. -/
theorem resume_registers {name hash : String} {owner : Owner}
    (h : σ.tables.Registers name hash owner) {events : List Event}
    (hkept : (owner.table, owner.id) ∉ (σ.resume env lifetimes events).deletions) :
    (σ.resume env lifetimes events).tables.Registers name hash owner := by
  induction events using List.reverseRecOn with
  | nil => exact h
  | append_singleton events e ih =>
    rw [resume_concat] at hkept ⊢
    exact step_registers (ih fun hmem ↦ hkept (deletions_subset_step _ e hmem)) hkept

end System

/-! ## The grant -/

/-- With the right secret a principal is granted a token of its own, if the fresh tokens are new. -/
theorem Service.grants_for_secret {env : Surroundings} {lifetimes : Lifetimes} {s : Service}
    (hi : s.database.tables.Integrity) (hr : s.database.Ready) {name hash secret : String}
    {owner : Owner} (hreg : s.database.tables.Registers name hash owner)
    (hverify : env.verify secret hash = true)
    (hrefresh : ∀ r ∈ s.database.tables.refreshTokens.rows, r.token ≠ env.token s.drawn)
    (haccess : ∀ a ∈ s.database.tables.accessTokens.rows, a.token ≠ env.token (s.drawn + 1))
    {basic : Option Credentials} {request : TokenRequest}
    (hp : request.Presents basic ⟨name, secret⟩ owner) :
    ∃ res s', (Endpoint.token lifetimes basic request).run (answer env {}) s = (.ok res, s') ∧
      res.BelongsTo owner s'.database.tables := by
  let pair := s.drawnPair env lifetimes owner none
  have hsup : ∀ id ∈ pair.supersedes, id ∈ s.database.tables.ids .refreshTokens := nofun
  have haccepts : (s.database.tables.without pair.supersedes).Accepts pair :=
    ⟨hrefresh, haccess, hreg.hasOwner⟩
  obtain ⟨issued, db, hstore⟩ := hr.storePair_of_accepts hi hsup haccepts
  obtain ⟨-, t, hstores, rfl⟩ := Database.storePair_eq_ok hstore
  rw [issues_for_secret hi hreg hp hverify hr rfl, run_issue]
  dsimp only
  rw [hstore]
  refine ⟨_, _, rfl, ?_⟩
  change TokenResponse.BelongsTo _ _ t
  rw [hstores.tables_eq]
  exact .of_withPair (congrArg _ hstores.issued_eq)

/-! ## Databases in files -/

/-- The tables of a database hang together, and nothing is forbidden of them. -/
structure Store.Database.Sound (db : Database) : Prop where
  integrity : db.tables.Integrity
  forbidden : db.forbidden = []

/-- A new database is sound. -/
theorem Store.Database.Sound.blank : Database.Sound .blank := ⟨.empty, rfl⟩

/-- Whatever a server does leaves a sound database sound. -/
theorem Store.Database.Sound.resume {env : Surroundings} {lifetimes : Lifetimes} {σ : System}
    (h : σ.service.database.Sound) (events : List Event) :
    (σ.resume env lifetimes events).service.database.Sound := by
  refine ⟨System.resume_integrity h.integrity events, ?_⟩
  obtain ⟨tables, closed, hdb⟩ := @System.resume_database env lifetimes σ events
  rw [hdb]
  exact h.forbidden

namespace CommandLine

/-- The system of a server that has been started. -/
def Server.Ready.system (r : Server.Ready) : System :=
  { service := { database := r.opened.database, placeholder := some r.placeholder } }

/-- A server accepts credentials of a principal: whatever has happened, as long as the store is open
and the principal has not been deleted, a token request with these credentials is granted a token of
this principal.  Nothing is asked of the surroundings but to verify secrets by their hashes and to
draw tokens that are not in use. -/
def Server.Ready.Accepts (ready : Server.Ready) (creds : Credentials) (owner : Owner) : Prop :=
  ∀ env events, env.verify = Bcrypt.verify →
    let σ := ready.system.resume env ready.config.lifetimes events
    σ.service.database.closed = false → (owner.table, owner.id) ∉ σ.deletions →
    (∀ r ∈ σ.tables.refreshTokens.rows, r.token ≠ env.token σ.service.drawn) →
    (∀ a ∈ σ.tables.accessTokens.rows, a.token ≠ env.token (σ.service.drawn + 1)) →
    ∀ basic request, request.Presents basic creds owner →
      ∃ res s, (Endpoint.token ready.config.lifetimes basic request).run (Service.answer env {})
        σ.service = (.ok res, s) ∧ res.BelongsTo owner s.database.tables

/-- A server accepts whom it finds registered with a hash of the secret. -/
theorem Server.Ready.accepts_of_registers {ready : Server.Ready}
    (hi : ready.opened.database.tables.Integrity) (hintact : ready.opened.database.Intact)
    {creds : Credentials} {hash : String} {owner : Owner}
    (hreg : ready.opened.database.tables.Registers creds.identifier hash owner)
    (hverify : Bcrypt.verify creds.secret hash = true) : ready.Accepts creds owner := by
  intro env events henv σ hopen hkept hrefresh haccess basic request hp
  have hi' : σ.tables.Integrity := System.resume_integrity (σ := ready.system) hi events
  have hready : σ.service.database.Ready :=
    { System.resume_intact (σ := ready.system) hintact events with closed := hopen }
  have hregistered : σ.tables.Registers creds.identifier hash owner :=
    System.resume_registers (σ := ready.system) hreg hkept
  exact Service.grants_for_secret hi' hready hregistered (henv ▸ hverify) hrefresh haccess hp

/-- What a run has left that has created a user or a client: the file, to which the location leads
from then on, has a row for a new owner with a hash of the secret, and is as sound as before. -/
theorem Admin.run_creates {lookup : String → Option String} {salt : List UInt8} {d d' : Disk}
    {config : Config} {p : Place} (hd : d.Plain) (hload : Config.load lookup = .ok config)
    (hpersists : d.Persists config.location p)
    (hbefore : ∀ db, d.node? p = some (.file db) → db.Sound) {args : List String}
    {r : AdminRequest} {creds : Credentials} {log : List Log.Event} {u : Unit}
    (hr : AdminRequest.parse args = .ok r) (hlocation : r.location = none)
    (hcreds : r.command.credentials? = some creds)
    (hrun : run lookup salt d args = (.done log u, d')) :
    ∃ owner hash db, (∃ e ∈ log, r.command.Creates owner e) ∧
      Secret.hash creds.secret config.cost salt = .ok hash ∧ ¬ (d.tablesAt p).HasOwner owner ∧
        d'.Leads config.location p ∧ d'.node? p = some (.file db) ∧ db.Sound ∧
          db.missing = [] ∧ db.tables.Registers creds.identifier hash owner := by
  obtain ⟨r', cost, location, opened, d₁, e, db', hr', hsettings, hopen, hperform, he, rfl⟩ :=
    run_eq_done hrun
  obtain rfl : r = r' := by
    rw [hr] at hr'
    exact Except.ok.inj hr'
  rw [settings_of_load hload hlocation] at hsettings
  cases hsettings
  obtain ⟨db, d₂, hopen', hfile, hleads⟩ := hpersists.leads hd
  rw [hopen'] at hopen
  cases hopen
  -- the database is the one that was in the file, or a new one
  have hsound : db.Sound := by
    obtain ⟨before, hthere | rfl, rfl⟩ := Disk.opened_database hd hopen'
    · obtain ⟨hi, hforbidden⟩ := hbefore before hthere
      exact ⟨hi, hforbidden⟩
    · exact ⟨Database.Sound.blank.integrity, rfl⟩
  have htables : db.tables = d.tablesAt p := by
    have hsame := (Disk.SameRows.openLocation hd config.location).tables p
    rw [hopen', Disk.tablesAt_of_file hfile] at hsame
    exact hsame
  obtain ⟨owner, hash, t, hcreates, hhash, rfl, hreg, hi, hno⟩ :=
    perform_of_credentials hperform hsound.integrity hcreds
  have hmissing : db.missing = [] := Disk.missing_of_openLocation hopen'
  exact ⟨owner, hash, { db with tables := t }, ⟨e, he, hcreates⟩, hhash, htables ▸ hno,
    hleads.put _, Disk.node?_put _ p _, ⟨hi, hsound.forbidden⟩, hmissing, hreg⟩

end CommandLine

namespace System

/-- What has been created by the administration is accepted by the server, and what has failed has
left no trace.  Under any variables that make a configuration, the administration comes to the
location and the work factor of the server, unless it is told another location.  Under any
variables and with any arguments, a run that does not get done changes no row in any file.  A run
that has created a user or a client, in a file that persists, has registered a new owner there, and
the file is as sound as it was before.  From then on every server that is started under the same
variables finds this file ready and accepts the credentials for this owner, and all that it does
leaves the database sound. -/
theorem provisioned_principal_accepted (lookup : String → Option String) (salt : List UInt8)
    (d : Disk) (hd : d.Plain) :
    (∀ config r, Config.load lookup = .ok config → r.location = none →
      Admin.settings lookup r = .ok (config.cost, config.location)) ∧
    (∀ args, (∀ log u, (Admin.run lookup salt d args).1 ≠ .done log u) →
      ∀ p, (Admin.run lookup salt d args).2.tablesAt p = d.tablesAt p) ∧
    ∀ config p, Config.load lookup = .ok config → d.Persists config.location p →
      (∀ db, d.node? p = some (.file db) → db.Sound) → salt.length = 16 →
      ∀ args r creds log d₁, AdminRequest.parse args = .ok r → r.location = none →
        r.command.credentials? = some creds →
        Admin.run lookup salt d args = (.done log (), d₁) →
        ∃ owner hash, (∃ e ∈ log, r.command.Creates owner e) ∧ ¬ (d.tablesAt p).HasOwner owner ∧
          (d₁.tablesAt p).Registers creds.identifier hash owner ∧
          (∃ db, d₁.node? p = some (.file db) ∧ db.Sound) ∧
          ∀ salt' args' port, Server.parse args' = .ok port →
            ∃ log' ready d₂, Server.start lookup salt' d₁ args' = (.done log' ready, d₂) ∧
              ready.config = { config with port := port.getD config.port } ∧
                ready.opened.place = some p ∧ ready.opened.database.tables = d₁.tablesAt p ∧
                  ready.opened.database.Ready ∧ ready.Accepts creds owner ∧
                    ∀ env events, (ready.system.resume env ready.config.lifetimes
                      events).service.database.Sound := by
  refine ⟨fun config r hload hr ↦ Admin.settings_of_load hload hr,
    fun args h ↦ (Admin.sameRows_of_run hd h).tables, ?_⟩
  intro config p hload hpersists hbefore hsalt args r creds log d₁ hr hlocation hcreds hrun
  obtain ⟨owner, hash, db, hcreates, hhash, hno, hleads, hfile, hsound, hmissing, hreg⟩ :=
    Admin.run_creates hd hload hpersists hbefore hr hlocation hcreds hrun
  have htables : d₁.tablesAt p = db.tables := Disk.tablesAt_of_file hfile
  refine ⟨owner, hash, hcreates, hno, htables ▸ hreg, ⟨db, hfile, hsound⟩,
    fun salt' args' port hargs ↦ ?_⟩
  obtain ⟨log', ready, d₂, hstart, hconfig, hopened⟩ :=
    Server.start_of_leads hload hleads hfile hmissing hargs salt'
  have hdb : ready.opened.database = db.revived := by rw [hopened]
  have hready : ready.opened.database.Ready := by
    rw [hdb]
    exact { missing := hmissing, forbidden := hsound.forbidden, readOnly := rfl, closed := rfl }
  have hrevived : ready.opened.database.Sound := by
    rw [hdb]
    exact ⟨hsound.integrity, hsound.forbidden⟩
  have hregisters : ready.opened.database.tables.Registers creds.identifier hash owner := by
    rw [hdb]
    exact hreg
  refine ⟨log', ready, d₂, hstart, hconfig, by rw [hopened], by rw [hdb, htables]; rfl, hready, ?_,
    fun env events ↦ hrevived.resume (σ := ready.system) events⟩
  exact Server.Ready.accepts_of_registers hrevived.integrity hready.toIntact hregisters
    (verify_of_hash hhash hsalt)

/-- The arguments that create a user. -/
def createAnn : List String := ["create-user", "--username", "ann", "--password", "secret"]

/-- A place with a new database. -/
theorem openLocation_tokens :
    Disk.openLocation {} (.file "tokens.db") =
      (.ok ⟨{}, some ["tokens.db"]⟩, ⟨[], [(["tokens.db"], .file {})]⟩) := by decide +kernel

/-- In a new file the user has the first number. -/
theorem run_createAnn :
    ∃ log hash, Admin.run (Config.production "sqlite:tokens.db") (.replicate 16 0) {} createAnn =
      (.done log (),
        ⟨[], [(["tokens.db"], .file { tables.users := ⟨[⟨1, "ann", hash⟩], 1⟩ })]⟩) := by
  have hload : Config.load (Config.production "sqlite:tokens.db") =
      .ok (Config.productionAt "tokens.db") := by decide +kernel
  have hparse : AdminRequest.parse createAnn =
      .ok { command := .createUser "ann" "secret" } := by decide +kernel
  have hsettings : Admin.settings (Config.production "sqlite:tokens.db")
      { command := .createUser "ann" "secret" } = .ok (12, .file "tokens.db") :=
    Admin.settings_of_load hload rfl
  have hcost : Config.CostAllowed 12 := by decide
  obtain ⟨hash, hhash⟩ := exists_hash hcost "secret" (.replicate 16 0)
  simp only [Admin.run, hparse, hsettings, openLocation_tokens, Admin.perform, hhash]
  exact ⟨_, hash, rfl⟩

/-- A user is created in a new file, and with the password of this user the server grants a token.
A scope cannot be created twice, and the second attempt changes nothing. -/
theorem provisioned_principal_accepted_user :
    let lookup := Config.production "sqlite:tokens.db"
    let env : Surroundings := { Surroundings.counting with verify := Bcrypt.verify }
    (∃ log d₁ log' ready d₂,
      Admin.run lookup (.replicate 16 0) {} createAnn = (.done log (), d₁) ∧
      Server.start lookup (.replicate 16 1) d₁ [] = (.done log' ready, d₂) ∧
      ∃ res s, (Endpoint.token ready.config.lifetimes (some ⟨"ann", "secret"⟩)
        { grantType := "password" }).run (Service.answer env {}) ready.system.service =
          (.ok res, s) ∧ res.BelongsTo (.user 1) s.database.tables) ∧
    let d := (Admin.run lookup [] {} ["create-scope", "read"]).2
    ∀ p, (Admin.run lookup [] d ["create-scope", "read"]).2.tablesAt p = d.tablesAt p := by
  intro lookup env
  constructor
  · obtain ⟨-, -, haccepted⟩ :=
      provisioned_principal_accepted lookup (.replicate 16 0) {} List.nodup_nil
    have hload : Config.load lookup = .ok (Config.productionAt "tokens.db") := by decide +kernel
    have hpersists : Disk.Persists {} (.file "tokens.db") ["tokens.db"] :=
      ⟨_, _, {}, ⟨[], [(["tokens.db"], .file {})]⟩, openLocation_tokens, by decide +kernel⟩
    have hparse : AdminRequest.parse createAnn =
        .ok { command := .createUser "ann" "secret" } := by decide +kernel
    obtain ⟨log, hash, hrun⟩ := run_createAnn
    obtain ⟨owner, hash', -, -, hreg, -, hstarts⟩ := haccepted _ ["tokens.db"] hload hpersists
      nofun rfl _ _ ⟨"ann", "secret"⟩ _ _ hparse rfl rfl hrun
    obtain ⟨log', ready, d₂, hstart, -, -, htables, hready, hgrants, -⟩ :=
      hstarts (.replicate 16 1) [] none rfl
    obtain rfl : owner = .user 1 := by
      cases owner with
      | user id =>
        cases List.mem_singleton.mp hreg
        rfl
      | client id => cases hreg
    have hrefresh : ready.system.tables.refreshTokens.rows = [] :=
      congrArg (·.refreshTokens.rows) htables
    have haccess : ready.system.tables.accessTokens.rows = [] :=
      congrArg (·.accessTokens.rows) htables
    refine ⟨log, _, log', ready, d₂, hrun, hstart, ?_⟩
    refine hgrants env [] rfl hready.closed nofun ?_ ?_ _ _ ⟨rfl, rfl⟩
    · intro r hr
      exact absurd (hrefresh ▸ hr) List.not_mem_nil
    · intro a ha
      exact absurd (haccess ▸ ha) List.not_mem_nil
  · intro d
    have hplain : (d.nodes.map (·.1)).Nodup := by decide +kernel
    obtain ⟨-, hfailed, -⟩ := provisioned_principal_accepted lookup [] d hplain
    refine hfailed _ fun log u hdone ↦ ?_
    have hexit : (Admin.run lookup [] d ["create-scope", "read"]).1.exitCode = 1 := by
      decide +kernel
    rw [hdone] at hexit
    cases hexit

end System

end TokenMint
