import TokenMint.Proofs.Bcrypt.Key
import TokenMint.Proofs.Bcrypt.Written
import TokenMint.Proofs.Grant.Issue
import TokenMint.Proofs.Grant.Secret
import TokenMint.Proofs.System.History

/-! # Which secrets authenticate a principal

A principal is registered with the hash of a secret.  Whoever presents its name is asked for a
secret with that hash, and that is a secret which gives the same key: nothing else of a secret takes
part in its hash.  If the core of the hash does not confuse two keys, a secret with another key is
refused wherever the store stands.  But a secret that agrees with the right one in the first
seventy-two bytes gives the same key, and is as good as the right one.

The core is left open here.  `Bcrypt.digest` is one of those that the results are about. -/

namespace TokenMint

open Bcrypt (Core hashWith key verifyWith)
open Bytes (Utf8.encode)
open Store (Tables)

namespace Service

variable {env : Surroundings} {lifetimes : Lifetimes} {s : Service} {owner : Owner}
  {name hash secret : String} {basic : Option Credentials} {request : TokenRequest}

/-- A secret whose hash is another one is refused, and the service stays as it is. -/
theorem refuses_secret (hi : s.database.tables.Integrity)
    (hreg : s.database.tables.Registers name hash owner)
    (hp : request.Presents basic ⟨name, secret⟩ owner) (hverify : env.verify secret hash = false) :
    (∀ o, ∃ f, (Endpoint.token lifetimes basic request).run (answer env o) s = (.error f, s)) ∧
      (s.database.Ready → ∀ o, o.query = none →
        (Endpoint.token lifetimes basic request).run (answer env o) s =
          (.error .unauthorized, s)) := by
  constructor
  · intro o
    rcases run_token_of_presents env lifetimes o hi hreg hp with ⟨hfails, -⟩ | hrun
    · exact hfails
    · exact ⟨_, hrun.trans (if_neg (by simp [hverify]))⟩
  · intro hr o ho
    rcases run_token_of_presents env lifetimes o hi hreg hp with ⟨-, hno⟩ | hrun
    · exact absurd ⟨hr, ho⟩ hno
    · exact hrun.trans (if_neg (by simp [hverify]))

/-- For a secret with the right hash a pair is issued. -/
theorem issues_for_secret (hi : s.database.tables.Integrity)
    (hreg : s.database.tables.Registers name hash owner)
    (hp : request.Presents basic ⟨name, secret⟩ owner) (hverify : env.verify secret hash = true)
    (hr : s.database.Ready) {o : Outage} (ho : o.query = none) :
    (Endpoint.token lifetimes basic request).run (answer env o) s =
      (Endpoint.issue lifetimes owner none).run (answer env o) s := by
  rcases run_token_of_presents env lifetimes o hi hreg hp with ⟨-, hno⟩ | hrun
  · exact absurd ⟨hr, ho⟩ hno
  · exact hrun.trans (if_pos hverify)

end Service

namespace System

/-- A principal is authenticated by the secrets that give the key of its own secret, and by no
others.  Take any core that makes hashes of twenty-three bytes, and any principal registered with
the hash of a secret.  Suppose that the core does not make one hash of the two keys of this secret
and a presented one unless they are one key.  With another key the request is refused, as
unauthorized if the store is open and the look-up does not fail, and the service stays as it is;
with the same key a pair is issued.  Of secrets without a zero byte just the first seventy-two bytes
make the key, so if they are no longer than that the key tells them apart. -/
theorem secret_authenticates_iff_key_eq (env : Surroundings) (lifetimes : Lifetimes)
    (events : List Event) (core : Core)
    (hcore : ∀ key cost salt, (core key cost salt).length = 23)
    (hverify : env.verify = verifyWith core) :
    let σ := run env lifetimes events
    ∀ owner name hash p cost salt, σ.tables.Registers name hash owner → salt.length = 16 →
      hashWith core p cost salt = .ok hash →
      ∀ s basic request, request.Presents basic ⟨name, s⟩ owner →
        (core (key s) cost.toNat salt = core (key p) cost.toNat salt → key s = key p) →
        let serve := fun o ↦
          (Endpoint.token lifetimes basic request).run (Service.answer env o) σ.service
        (key s ≠ key p →
          (∀ o, ∃ f, serve o = (.error f, σ.service)) ∧
          (σ.service.database.closed = false → ∀ o, o.query = none →
            serve o = (.error .unauthorized, σ.service))) ∧
        (key s = key p → σ.service.database.closed = false → ∀ o, o.query = none →
          serve o = (Endpoint.issue lifetimes owner none).run (Service.answer env o) σ.service) ∧
        (0 ∉ Utf8.encode s → 0 ∉ Utf8.encode p →
          (key s = key p ↔ (Utf8.encode s).take 72 = (Utf8.encode p).take 72) ∧
          ((Utf8.encode s).length ≤ 72 → (Utf8.encode p).length ≤ 72 →
            (key s = key p ↔ s = p))) := by
  intro σ owner name hash p cost salt hreg hsalt hhash s basic request hp hapart serve
  have hi : σ.service.database.tables.Integrity := (Recorded.run env lifetimes events).integrity
  have hkey : env.verify s hash = true ↔ key s = key p := by
    rw [hverify, Bcrypt.verifyWith_iff hcore hsalt hhash]
    exact ⟨hapart, fun h ↦ by rw [h]⟩
  refine ⟨fun hne ↦ ?_, fun heq hopen o ho ↦ ?_, fun hs hp ↦ ⟨Bcrypt.key_eq_iff_take hs hp,
    Bcrypt.key_eq_iff_eq hs hp⟩⟩
  · have hfalse : env.verify s hash = false := Bool.eq_false_iff.mpr fun h ↦ hne (hkey.mp h)
    obtain ⟨hfails, hunauthorized⟩ := Service.refuses_secret hi hreg hp hfalse
    exact ⟨hfails, fun hopen ↦ hunauthorized (run_ready hopen)⟩
  · exact Service.issues_for_secret hi hreg hp (hkey.mpr heq) (run_ready hopen) ho

/-- The hashes of two secrets with work factor four under a salt of zeros. -/
def twoHashes : Core := fun k _ _ ↦
  if k = key "secret" then
    [5, 241, 2, 186, 190, 145, 172, 186, 133, 139, 31, 3, 129, 195, 81, 240, 51, 45, 102, 112, 215,
      222, 169]
  else if k = key "Secret" then
    [244, 204, 73, 21, 107, 138, 223, 68, 0, 53, 220, 238, 18, 176, 255, 14, 132, 74, 132, 91, 77,
      124, 252]
  else List.replicate 23 0

/-- A user is registered with one of the two secrets. -/
def registration : List Event :=
  [.administer (.createUser "ann"
    "$2b$04$....................../dCAsp4PpJoDgv6BeaLP6BKrXlBV1oi") {}]

/-- The other secret is refused, and with the right one a pair is issued. -/
theorem secret_authenticates_iff_key_eq_capital :
    let env : Surroundings := { Surroundings.counting with verify := verifyWith twoHashes }
    let σ := run env ⟨60, 3600⟩ registration
    let serve := fun secret ↦ (Endpoint.token ⟨60, 3600⟩ (some ⟨"ann", secret⟩)
      { grantType := "password" }).run (Service.answer env {}) σ.service
    serve "Secret" = (.error .unauthorized, σ.service) ∧
      serve "secret" =
        (Endpoint.issue ⟨60, 3600⟩ (.user 1) none).run (Service.answer env {}) σ.service := by
  intro env σ serve
  have hcore (key : Array UInt32) (cost : Nat) (salt : List UInt8) :
      (twoHashes key cost salt).length = 23 := by
    unfold twoHashes
    split
    · rfl
    · split <;> rfl
  have hhash : hashWith twoHashes "secret" 4 (List.replicate 16 0) =
      .ok "$2b$04$....................../dCAsp4PpJoDgv6BeaLP6BKrXlBV1oi" := by decide +kernel
  have hreg : σ.tables.Registers "ann"
      "$2b$04$....................../dCAsp4PpJoDgv6BeaLP6BKrXlBV1oi" (.user 1) := by decide +kernel
  have hne : key "Secret" ≠ key "secret" := by decide +kernel
  have happly := secret_authenticates_iff_key_eq env ⟨60, 3600⟩ registration twoHashes hcore rfl
    (.user 1) "ann" _ "secret" 4 _ hreg rfl hhash
  obtain ⟨hrefused, -⟩ := happly "Secret" (some ⟨"ann", "Secret"⟩) { grantType := "password" }
    ⟨rfl, rfl⟩ (by decide +kernel)
  obtain ⟨-, hissued, -⟩ := happly "secret" (some ⟨"ann", "secret"⟩) { grantType := "password" }
    ⟨rfl, rfl⟩ fun _ ↦ rfl
  exact ⟨(hrefused hne).2 rfl {} rfl, hissued rfl rfl {} rfl⟩

/-- A password of seventy-two bytes. -/
def longPassword : String := .ofList (List.replicate 72 'a')

/-- With another letter at its end, a long password gives the same key, and a pair is issued. -/
theorem longer_secret_authenticates :
    ¬ ∀ (env : Surroundings) (lifetimes : Lifetimes) (events : List Event) (owner : Owner)
        (name hash p s : String) (cost : UInt32) (salt : List UInt8)
        (basic : Option Credentials) (request : TokenRequest),
      env.verify = Bcrypt.verify →
      let σ := run env lifetimes events
      σ.service.database.closed = false → σ.tables.Registers name hash owner →
        salt.length = 16 → Bcrypt.hash p cost salt = .ok hash →
        request.Presents basic ⟨name, s⟩ owner → s ≠ p →
        (Bcrypt.digest (key s) cost.toNat salt = Bcrypt.digest (key p) cost.toNat salt →
          key s = key p) →
        ∃ f, ((Endpoint.token lifetimes basic request).run (Service.answer env {}) σ.service).1 =
          .error f := by
  intro hall
  have hkey : key (longPassword ++ "b") = key longPassword :=
    Bcrypt.key_eq_of_take (by decide +kernel)
  have hne : longPassword ++ "b" ≠ longPassword := by decide +kernel
  obtain ⟨hash, hhash⟩ : ∃ hash, Bcrypt.hash longPassword 4 (List.replicate 16 0) = .ok hash :=
    ⟨_, if_pos (by decide)⟩
  have hverify : Bcrypt.verify (longPassword ++ "b") hash = true := by
    rw [← Bcrypt.verifyWith_digest, Bcrypt.verifyWith_iff Bcrypt.length_digest rfl hhash, hkey]
  let env : Surroundings := { Surroundings.counting with verify := Bcrypt.verify }
  let σ := run env ⟨60, 3600⟩ [.administer (.createUser "ann" hash) {}]
  have hreg : σ.tables.Registers "ann" hash (.user 1) := List.mem_singleton_self _
  have hopen : σ.service.database.closed = false := rfl
  have hi : σ.tables.Integrity := (Recorded.run env ⟨60, 3600⟩ _).integrity
  let pair := σ.service.drawnPair env ⟨60, 3600⟩ (.user 1) none
  have haccepts : σ.tables.Accepts pair := ⟨nofun, nofun, ⟨_, hreg, rfl⟩⟩
  obtain ⟨issued, db, hstore⟩ : ∃ issued db,
      σ.service.database.storePair (Outage.pair {}) pair = (.ok issued, db) :=
    (run_ready hopen).storePair_of_accepts hi nofun haccepts
  obtain ⟨f, hf⟩ := hall env ⟨60, 3600⟩ [.administer (.createUser "ann" hash) {}] (.user 1) "ann"
    hash longPassword (longPassword ++ "b") 4 _ (some ⟨"ann", longPassword ++ "b"⟩)
    { grantType := "password" } rfl hopen hreg rfl hhash ⟨rfl, rfl⟩ hne fun _ ↦ hkey
  rw [Service.issues_for_secret hi hreg ⟨rfl, rfl⟩ hverify (run_ready hopen) rfl,
    Service.run_issue] at hf
  simp only [pair] at hstore
  simp only [hstore] at hf
  cases hf

end System

end TokenMint
