import TokenMint.Proofs.Store.Cascade
import TokenMint.Proofs.Store.Live
import TokenMint.Proofs.Store.Transaction
import TokenMint.Proofs.System.Closed
import TokenMint.Proofs.System.Footprint

/-! # A refresh token that is superseded

The transaction of a pair takes out what the pair replaces by three statements: the links of the
access token first, then the access token, then the refresh token.  The second and the third take
along what refers to their rows, but find nothing of it left, so that the three of them come to what
the third would do alone.  Where there is no refresh token to replace, nothing refers to it either,
and the transaction ends with all rows in place. -/

namespace TokenMint

namespace Store

/-! ## The three statements -/

namespace Pair

variable {α β : Type} {outage : PairOutage} {before db db' : Database}

theorem run_bind_of_ok {w : Work α} {f : α → Work β} {a : α} {t t' : Transaction}
    (h : w.run t = (.ok a, t')) : (w >>= f).run t = (f a).run t' := by
  change ExceptT.bindCont f (w.run t).1 (w.run t).2 = _
  rw [h]
  rfl

/-- A statement that succeeds changes the working copy, and the transaction goes on. -/
theorem run_statement_of_ok {step : PairStep} {failed : String → PairFault} {s : Statement α}
    {a : α} (ho : outage step = none) (h : s db = .ok (a, db')) :
    (statement outage step failed s).run ⟨before, some db⟩ = (.ok a, ⟨before, some db'⟩) := by
  simp only [statement, ho, ExceptT.run, Transaction.execute_of_ok h]

/-- The three statements take out the refresh token with all that refers to it, and tell whether
there was one. -/
theorem run_removeSuperseded (h : db.Ready)
    (ho : ∀ step ∈ [PairStep.unlink, .dropAccess, .dropRefresh], outage step = none) (id : Int) :
    (removeSuperseded outage id).run ⟨before, some db⟩ =
      (if id ∈ db.tables.ids .refreshTokens then .ok () else .error (.superseded id),
        ⟨before, some { db with tables := db.tables.removeRefresh id }⟩) := by
  obtain ⟨_, _, gone, db₁, db₂, h₁, h₂, h₃, hgone⟩ := deletes_superseded h id
  refine (run_bind_of_ok (run_statement_of_ok (ho .unlink (by simp)) h₁)).trans ?_
  refine (run_bind_of_ok (run_statement_of_ok (ho .dropAccess (by simp)) h₂)).trans ?_
  refine (run_bind_of_ok (run_statement_of_ok (ho .dropRefresh (by simp)) h₃)).trans ?_
  by_cases hid : id ∈ db.tables.ids .refreshTokens
  · rw [if_pos hid, if_neg fun hzero ↦ hgone.mp hzero hid]
    rfl
  · rw [if_neg hid, if_pos (hgone.mpr hid)]
    rfl

end Pair

/-! ## The deletion of the row -/

namespace Database

variable {db : Database}

theorem Ready.deleteRow (h : db.Ready) {n : TableName} (hn : n ≠ .links) (id : Int) :
    Database.deleteRow n id db = .ok (db.tables.count n - (db.tables.remove n id).count n,
      { db with tables := db.tables.remove n id }) := by
  rw [Database.deleteRow, if_neg hn]
  exact h.delete n _

/-- A transaction that has begun has found the database open. -/
theorem open_of_startPair {outage : PairOutage} {t : Transaction}
    (h : db.startPair outage = .ok t) : db.closed = false := by
  cases hclosed : db.closed with
  | false => rfl
  | true =>
    obtain ⟨f, hf, -⟩ := startPair_of_closed hclosed outage
    rw [hf] at h
    cases h

end Database

/-- A refresh token that is there is one row. -/
theorem Tables.Integrity.count_removeRefresh {t : Tables} (h : t.Integrity) {r : RefreshRow}
    (hr : r ∈ t.refreshTokens.rows) :
    t.count .refreshTokens - (t.removeRefresh r.id).count .refreshTokens = 1 := by
  have hone : (t.removeRefresh r.id).count .refreshTokens + 1 = t.count .refreshTokens :=
    length_filter_key_ne h.refreshTokens.ids (List.mem_map_of_mem hr)
  omega

end Store

namespace System

open Store

/-- To take out a refresh token that is superseded is to delete its row.  After any run, in a
transaction that has begun, the three statements, each of which takes rows out of one table, make of
the tables what deleting the row alone makes of them: the refresh token goes, with the access token
that refers to it, if there is one, and the links of that, and this is all that falls with the row.
Where there is no such refresh token, the work ends by saying so, and none of the three has taken
anything out, as nothing falls. -/
theorem supersession_agrees_with_deletion (env : Surroundings) (lifetimes : Lifetimes)
    (events : List Event) :
    let db := (run env lifetimes events).service.database
    ∀ (outage : PairOutage) (t : Transaction), db.startPair outage = .ok t →
      (∀ step ∈ [PairStep.unlink, .dropAccess, .dropRefresh], outage step = none) →
      (∀ r ∈ db.tables.refreshTokens.rows, ∃ tables,
        (Pair.removeSuperseded outage r.id).run t =
          (.ok (), { t with working := some { db with tables } }) ∧
        Database.deleteRow .refreshTokens r.id db = .ok (1, { db with tables }) ∧
        db.tables.Piecemeal r.id tables ∧ db.tables.Departs r tables ∧
        ∀ x, x ∈ tables ↔ x ∈ db.tables ∧ ¬ db.tables.Falls (.refreshTokens, r.id) x) ∧
      ∀ id ∉ db.tables.ids .refreshTokens,
        (Pair.removeSuperseded outage id).run t = (.error (.superseded id), t) ∧
        Database.deleteRow .refreshTokens id db = .ok (0, db) ∧
        db.tables.Piecemeal id db.tables ∧ ∀ x, ¬ db.tables.Falls (.refreshTokens, id) x := by
  intro db outage t ht ho
  have hi : db.tables.Integrity := run_integrity env lifetimes events
  have hready : db.Ready := { run_intact events with closed := Database.open_of_startPair ht }
  obtain rfl := Database.startPair_eq_ok ht
  refine ⟨fun r hr ↦ ?_, fun id hid ↦ ?_⟩
  · have hmem : r.id ∈ db.tables.ids .refreshTokens := List.mem_map_of_mem hr
    refine ⟨db.tables.removeRefresh r.id, ?_, ?_, Tables.piecemeal_removeRefresh _ _,
      hi.departs_removeRefresh hr, fun x ↦ hi.mem_remove (n := .refreshTokens)⟩
    · rw [Pair.run_removeSuperseded hready ho, if_pos hmem]
    · rw [hready.deleteRow (n := .refreshTokens) nofun, ← hi.count_removeRefresh hr]
      rfl
  · have hsame : db.tables.removeRefresh id = db.tables := hi.removeRefresh_of_not_mem hid
    have hpiecemeal := db.tables.piecemeal_removeRefresh id
    rw [hsame] at hpiecemeal
    refine ⟨?_, ?_, hpiecemeal, Tables.not_falls hid⟩
    · rw [Pair.run_removeSuperseded hready ho, if_neg hid, hsame]
    · rw [hready.deleteRow (n := .refreshTokens) nofun, Tables.remove, hsame, Nat.sub_self]

/-- Of two pairs of one user, the access token of the second is deleted. -/
def twoGrantsOneWidowed : List Event := twoGrants ++ [.administer (.delete .accessTokens 2) {}]

/-- The first refresh token goes with an access token and its link, the second goes alone, and there
is no third. -/
theorem supersession_agrees_with_deletion_widowed :
    let db := (run .counting ⟨60, 3600⟩ twoGrantsOneWidowed).service.database
    let t : Transaction := ⟨db, some db⟩
    db.startPair .none = .ok t ∧ db.tables.ids .refreshTokens = [1, 2] ∧
    db.tables.ids .accessTokens = [1] ∧ db.tables.links = [⟨1, 2⟩] ∧
    (∀ r ∈ db.tables.refreshTokens.rows, ∃ tables,
      (Pair.removeSuperseded .none r.id).run t =
        (.ok (), { t with working := some { db with tables } }) ∧
      Database.deleteRow .refreshTokens r.id db = .ok (1, { db with tables }) ∧
      (tables.ids .refreshTokens, tables.ids .accessTokens, tables.links) =
        if r.id = 1 then ([2], [], []) else ([1], [1], [⟨1, 2⟩])) ∧
    (Pair.removeSuperseded .none 3).run t = (.error (.superseded 3), t) ∧
    Database.deleteRow .refreshTokens 3 db = .ok (0, db) := by
  intro db t
  have ht : db.startPair .none = .ok t := by decide +kernel
  obtain ⟨hthere, hmissing⟩ := supersession_agrees_with_deletion .counting ⟨60, 3600⟩
    twoGrantsOneWidowed .none t ht fun _ _ ↦ rfl
  have hleft : ∀ r ∈ db.tables.refreshTokens.rows,
      ((db.tables.refreshTokens.keep (· ≠ r)).rows.map (·.id),
        (db.tables.accessTokens.keep (some · ≠ db.tables.partner r)).rows.map (·.id),
        db.tables.links.filter (some ·.accessTokenId ≠ (db.tables.partner r).map (·.id))) =
      if r.id = 1 then ([2], [], []) else ([1], [1], [⟨1, 2⟩]) := by decide +kernel
  obtain ⟨hrun, hdelete, -⟩ := hmissing 3 (by decide +kernel)
  refine ⟨ht, by decide +kernel, by decide +kernel, by decide +kernel, fun r hr ↦ ?_, hrun, hdelete⟩
  obtain ⟨tables, hrun, hdelete, -, hdeparts, -⟩ := hthere r hr
  refine ⟨tables, hrun, hdelete, ?_⟩
  rw [← hleft r hr, ← hdeparts.refreshTokens, ← hdeparts.accessTokens, ← hdeparts.links]
  rfl

end System

end TokenMint
