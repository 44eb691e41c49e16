import TokenMint.Proofs.Grant.Issue
import TokenMint.Proofs.Grant.Turn
import TokenMint.Proofs.Store.Statement

/-! # A refresh token at a service

A presented refresh token is looked up, its expiry is compared with the clock, and then its access
token is looked up for the owner.  One lemma for each way this can end says what comes of it at a
service whose statements do not fail. -/

namespace TokenMint

open Store (Database)

namespace Endpoint

/-- A refresh token is looked up, the time is asked for, and the access token is looked up; only
then is anything issued. -/
theorem refreshGrant_eq (lifetimes : Lifetimes) (token : String) :
    refreshGrant lifetimes token =
      .ask (.refreshToken token) fun
        | .error f => .done (.error f)
        | .ok none => .done (.error (.invalidGrant "Refresh token not found"))
        | .ok (some found) =>
          .ask .now fun now ↦
            if found.expired now then .done (.error (.invalidGrant "Refresh token expired"))
            else
              .ask (.accessToken found.id) fun
                | .error f => .done (.error f)
                | .ok access =>
                  match access.bind (·.owner?) with
                  | none =>
                    .done (.error (.invalidGrant "Access token with refresh token not found"))
                  | some owner => issue lifetimes owner (some found.id) := by
  refine congrArg (Program.ask (.refreshToken token)) (funext fun x ↦ ?_)
  rcases x with f | _ | found
  · rfl
  · rfl
  · refine congrArg (Program.ask .now) (funext fun now ↦ ?_)
    change ite (found.expired now = true) _ _ = ite (found.expired now = true) _ _
    split
    · rfl
    · refine congrArg (Program.ask (.accessToken found.id)) (funext fun y ↦ ?_)
      rcases y with f | access
      · rfl
      · cases access.bind (·.owner?) <;> rfl

end Endpoint

namespace Service

variable {env : Surroundings} {lifetimes : Lifetimes} {token : String} {s : Service}

theorem answer_refreshToken_of_ok {found : Option RefreshToken}
    (h : Database.refreshToken? token s.database = .ok found) :
    s.answer env {} (.refreshToken token) = (.ok found, s) := by
  simp [answer, look, Database.look, h]

theorem answer_accessToken_of_ok {id : Int} {found : Option AccessToken}
    (h : Database.accessToken? id s.database = .ok found) :
    s.answer env {} (.accessToken id) = (.ok found, s) := by
  simp [answer, look, Database.look, h]

theorem run_refreshGrant_unknown (h : Database.refreshToken? token s.database = .ok none) :
    (Endpoint.refreshGrant lifetimes token).run (answer env {}) s =
      (.error (.invalidGrant "Refresh token not found"), s) := by
  rw [Endpoint.refreshGrant_eq, Program.run_ask, answer_refreshToken_of_ok h]
  rfl

variable {found : RefreshToken}

theorem run_refreshGrant_expired (h : Database.refreshToken? token s.database = .ok (some found))
    (hold : found.expiresAt ≤ env.clock s.readings) :
    (Endpoint.refreshGrant lifetimes token).run (answer env {}) s =
      (.error (.invalidGrant "Refresh token expired"), { s with readings := s.readings + 1 }) := by
  rw [Endpoint.refreshGrant_eq, Program.run_ask, answer_refreshToken_of_ok h]
  change Program.run (answer env {}) (ite (found.expired (env.clock s.readings) = true) _ _) _ = _
  rw [if_pos (by simpa [RefreshToken.expired] using hold)]
  rfl

/-- What becomes of a token that has not expired depends on its access token. -/
theorem run_refreshGrant_fresh {access : Option AccessToken}
    (h : Database.refreshToken? token s.database = .ok (some found))
    (hfresh : ¬ found.expiresAt ≤ env.clock s.readings)
    (ha : Database.accessToken? found.id s.database = .ok access) :
    (Endpoint.refreshGrant lifetimes token).run (answer env {}) s =
      Program.run (answer env {})
        (match access.bind (·.owner?) with
        | none => .done (.error (.invalidGrant "Access token with refresh token not found"))
        | some owner => Endpoint.issue lifetimes owner (some found.id))
        { s with readings := s.readings + 1 } := by
  have haccess : answer env {} (.accessToken found.id) { s with readings := s.readings + 1 } =
      (.ok access, { s with readings := s.readings + 1 }) := answer_accessToken_of_ok ha
  rw [Endpoint.refreshGrant_eq, Program.run_ask, answer_refreshToken_of_ok h]
  change Program.run (answer env {}) (ite (found.expired (env.clock s.readings) = true) _ _) _ = _
  rw [if_neg (by simpa [RefreshToken.expired] using hfresh), Program.run_ask]
  dsimp only
  rw [haccess]

end Service

end TokenMint
