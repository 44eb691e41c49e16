import TokenMint.CommandLine.Admin
import TokenMint.CommandLine.Server
import TokenMint.Proofs.Bcrypt.Written
import TokenMint.Proofs.Config.Memory
import TokenMint.Proofs.Grant.Secret
import TokenMint.Proofs.Store.Numbering
import TokenMint.Proofs.Store.Reopening

/-! # The administration and the server

The administration and the server are two programs that share a disk and the names of variables.
Each reads its variables by its own rules, and yet both come to the same location and the same work
factor.  What the administration fails to do leaves no trace in any row; a user or a client that it
has created has a row in the file, and the server finds the file and the row when it is started. -/

namespace TokenMint.CommandLine

open Store (Database Disk Place Tables mapError_eq_ok)

/-! ## Settings -/

theorem parse_standard : Location.parse Location.standard.connection = .ok .standard := by
  decide +kernel

/-- What the variables settle for a server, they settle for an administration that is not told
another location. -/
theorem Admin.settings_of_load {lookup : String → Option String} {config : Config}
    (h : Config.load lookup = .ok config) {r : AdminRequest} (hr : r.location = none) :
    settings lookup r = .ok (config.cost, config.location) := by
  obtain ⟨-, -, hlocation, hcost, -⟩ := Config.load_eq_ok.mp h
  have hparse : Location.parse (r.locationText lookup) = .ok config.location := by
    rw [AdminRequest.locationText, hr, Option.none_or]
    rcases Config.readLocation_eq_ok.mp hlocation with ⟨hnone, hstandard⟩ | ⟨url, hurl, hparse⟩
    · rw [hnone, hstandard]
      exact parse_standard
    · rw [hurl]
      exact hparse
  simp [settings, hcost, hparse, bind, Except.bind]
  rfl

/-! ## Hashes -/

/-- A work factor that the configuration allows is one that a hash can be computed with. -/
theorem mem_costRange {cost : UInt32} (h : Config.CostAllowed cost) :
    (cost.toNat : Int) ∈ Bcrypt.costRange := by
  obtain ⟨hlow, hhigh⟩ := h
  rw [UInt32.le_iff_toNat_le] at hlow hhigh
  exact ⟨Int.ofNat_le.mpr hlow, Int.ofNat_le.mpr hhigh⟩

/-- So every secret has a hash with it. -/
theorem exists_hash {cost : UInt32} (h : Config.CostAllowed cost) (secret : String)
    (salt : List UInt8) : ∃ hash, Secret.hash secret cost salt = .ok hash := by
  rw [Secret.hash, Bcrypt.hash, if_pos (mem_costRange h)]
  exact ⟨_, rfl⟩

/-- A secret is verified by the hash that has been made of it. -/
theorem verify_of_hash {secret hash : String} {cost : UInt32} {salt : List UInt8}
    (h : Secret.hash secret cost salt = .ok hash) (hsalt : salt.length = 16) :
    Bcrypt.verify secret hash = true := by
  rw [Secret.hash, mapError_eq_ok, ← Bcrypt.hashWith_digest] at h
  rw [← Bcrypt.verifyWith_digest, Bcrypt.verifyWith_iff Bcrypt.length_digest hsalt h]

/-! ## Commands -/

/-- The credentials of whom a command creates. -/
def AdminCommand.credentials? : AdminCommand → Option Credentials
  | .createUser username password => some ⟨username, password⟩
  | .createClient clientId secret => some ⟨clientId, secret⟩
  | .createScope _ _ => none

/-- The owner that a command has created is told by an event. -/
inductive AdminCommand.Creates : AdminCommand → Owner → Log.Event → Prop
  | user (username password : String) (id : Int) :
    Creates (.createUser username password) (.user id)
      (Admin.event "User created" [("id", .int id), ("username", .text username)])
  | client (clientId secret : String) (id : Int) :
    Creates (.createClient clientId secret) (.client id)
      (Admin.event "Client created" [("id", .int id), ("client_id", .text clientId)])

namespace Admin

variable {cost : UInt32} {salt : List UInt8} {db db' : Database} {c : AdminCommand}

/-- A registration that succeeds has run its statement. -/
theorem register_eq_ok {α : Type} {what : String} {s : Store.Statement Int} {g : Int → α} {a : α}
    (h : ((db.register what s).1.map g, (db.register what s).2) = (.ok a, db')) :
    ∃ id, s db = .ok (id, db') ∧ g id = a := by
  unfold Database.register at h
  cases hs : s db with
  | error f =>
    rw [db.execute_of_error hs] at h
    cases h
  | ok p =>
    rw [db.execute_of_ok hs] at h
    cases h
    exact ⟨p.1, rfl, rfl⟩

/-- A registration that fails changes nothing. -/
theorem eq_of_register_eq_error {α : Type} {what : String} {s : Store.Statement Int}
    {g : Int → α} {f : Failure}
    (h : ((db.register what s).1.map g, (db.register what s).2) = (.error f, db')) : db' = db := by
  unfold Database.register at h
  cases hs : s db with
  | error f =>
    rw [db.execute_of_error hs] at h
    cases h
    rfl
  | ok p =>
    rw [db.execute_of_ok hs] at h
    cases h

/-- A command that fails changes nothing. -/
theorem eq_of_perform_eq_error {f : Failure} (h : perform cost salt db c = (.error f, db')) :
    db' = db := by
  cases c with
  | createUser username password =>
    unfold perform at h
    dsimp only at h
    split at h
    · cases h
      rfl
    · exact eq_of_register_eq_error h
  | createClient clientId secret =>
    unfold perform at h
    dsimp only at h
    split at h
    · cases h
      rfl
    · exact eq_of_register_eq_error h
  | createScope name isDefault => exact eq_of_register_eq_error h

/-- A user or a client that has been created is registered under the next number, with a hash of its
secret. -/
theorem perform_of_credentials {e : Log.Event} (h : perform cost salt db c = (.ok e, db'))
    (hi : db.tables.Integrity) {creds : Credentials} (hc : c.credentials? = some creds) :
    ∃ owner hash t, c.Creates owner e ∧ Secret.hash creds.secret cost salt = .ok hash ∧
      db' = { db with tables := t } ∧ t.Registers creds.identifier hash owner ∧ t.Integrity ∧
        ¬ db.tables.HasOwner owner := by
  cases c with
  | createScope name isDefault => cases hc
  | createUser username password =>
    cases hc
    unfold perform at h
    dsimp only at h
    split at h
    · cases h
    · rename_i hash hhash
      obtain ⟨id, hs, rfl⟩ := register_eq_ok h
      obtain ⟨-, -, t, ht, rfl⟩ := Database.insert_eq_ok.mp hs
      have hi' : t.Integrity := hi.addUser ht
      obtain ⟨-, rfl, rfl⟩ := Tables.addUser_eq_ok ht
      refine ⟨.user db.tables.users.next, hash, _, .user .., hhash, rfl,
        List.mem_append_right _ (List.mem_singleton_self _), hi', ?_⟩
      rintro ⟨u, hu, hid⟩
      exact hi.users.ne_next hu hid
  | createClient clientId secret =>
    cases hc
    unfold perform at h
    dsimp only at h
    split at h
    · cases h
    · rename_i hash hhash
      obtain ⟨id, hs, rfl⟩ := register_eq_ok h
      obtain ⟨-, -, t, ht, rfl⟩ := Database.insert_eq_ok.mp hs
      have hi' : t.Integrity := hi.addClient ht
      obtain ⟨-, rfl, rfl⟩ := Tables.addClient_eq_ok ht
      refine ⟨.client db.tables.clients.next, hash, _, .client .., hhash, rfl,
        List.mem_append_right _ (List.mem_singleton_self _), hi', ?_⟩
      rintro ⟨k, hk, hid⟩
      exact hi.clients.ne_next hk hid

/-! ## Runs on a disk -/

variable {lookup : String → Option String} {d d' : Disk} {args : List String}

/-- How far a run has come that gets done. -/
theorem run_eq_done {log : List Log.Event} {u : Unit}
    (h : run lookup salt d args = (.done log u, d')) :
    ∃ r cost location opened d₁ e db', AdminRequest.parse args = .ok r ∧
      settings lookup r = .ok (cost, location) ∧ d.openLocation location = (.ok opened, d₁) ∧
      perform cost salt opened.database r.command = (.ok e, db') ∧ e ∈ log ∧
        d' = d₁.keep opened db' := by
  unfold run at h
  split at h
  · cases h
  · rename_i r hr
    split at h
    · cases h
    · rename_i cost location hsettings
      split at h
      · cases h
      · rename_i opened d₁ hopen
        dsimp only at h
        split at h
        · cases h
        · rename_i e he
          cases h
          exact ⟨r, cost, location, opened, d₁, e, _, hr, hsettings, hopen, Prod.ext he rfl,
            by simp, rfl⟩

/-- To keep a database as it has been opened changes no row. -/
theorem sameRows_keep (hd : d.Plain) {l : Location} {opened : Store.Opened}
    (h : d.openLocation l = (.ok opened, d')) : d.SameRows (d'.keep opened opened.database) := by
  have hopened : d.SameRows d' := by
    have hsame := Disk.SameRows.openLocation hd l
    rwa [h] at hsame
  obtain ⟨db, _ | p⟩ := opened
  · exact hopened
  · obtain ⟨-, hfile, -⟩ := Disk.opened_ready hd h
    exact hopened.trans (.put hopened.plain (Disk.tablesAt_of_file hfile).symm)

/-- A run that does not get done has changed no row on the disk. -/
theorem sameRows_of_run (hd : d.Plain)
    (h : ∀ log u, (run lookup salt d args).1 ≠ .done log u) :
    d.SameRows (run lookup salt d args).2 := by
  generalize hrun : run lookup salt d args = x at h ⊢
  unfold run at hrun
  split at hrun
  · cases hrun
    exact .refl hd
  · rename_i r _
    split at hrun
    · cases hrun
      exact .refl hd
    · rename_i cost location _
      split at hrun
      · rename_i d₁ hopen
        cases hrun
        have hsame := Disk.SameRows.openLocation hd location
        rwa [hopen] at hsame
      · rename_i opened d₁ hopen
        dsimp only at hrun
        split at hrun
        · rename_i f hf
          cases hrun
          have hdb : (perform cost salt opened.database r.command).2 = opened.database :=
            eq_of_perform_eq_error (Prod.ext hf rfl)
          dsimp only
          rw [hdb]
          exact sameRows_keep hd hopen
        · cases hrun
          exact absurd rfl (h _ ())

end Admin

/-! ## The start of the server -/

/-- A server starts where its location leads to a file with all its tables. -/
theorem Server.start_of_leads {lookup : String → Option String} {config : Config} {d : Disk}
    {p : Place} {db : Database} {args : List String} {port : Option UInt16}
    (hload : Config.load lookup = .ok config) (hleads : d.Leads config.location p)
    (hfile : d.node? p = some (.file db)) (hdb : db.missing = [])
    (hargs : parse args = .ok port) (salt : List UInt8) :
    ∃ log ready d', start lookup salt d args = (.done log ready, d') ∧
      ready.config = { config with port := port.getD config.port } ∧
        ready.opened = ⟨db.revived, some p⟩ := by
  obtain ⟨-, -, -, -, -, -, hcheck⟩ := Config.load_eq_ok.mp hload
  obtain ⟨placeholder, hplaceholder⟩ :=
    exists_hash (Config.check_eq_ok.mp hcheck).1 Endpoint.placeholderSecret salt
  simp only [start, hargs, hload, hleads.openLocation hfile hdb, hplaceholder]
  exact ⟨_, _, _, rfl, rfl, rfl⟩

end TokenMint.CommandLine
