import TokenMint.Http.Router
import TokenMint.Proofs.Json.Wire
import TokenMint.Proofs.Store.Alike

/-! # What a client sees of a failure

The body of a failure is an object with one member, and the text of this member is the message,
character for character.  Nothing else of a failure goes into its response but the code. -/

namespace TokenMint

open Json (Tree writeText)

namespace ErrorBody

theorem write_eq (m : String) :
    (Wire.write (ErrorBody.mk m)).toList =
      '\x7b' :: (writeText "Error".toList ++ ':' :: (writeText m.toList ++ ['\x7d'])) := by
  change (String.ofList (Tree.write (.object [("Error", .text m)]))).toList = _
  simp [Tree.write, Tree.writeMembers]

/-- The body of a failure has one member. -/
theorem entries_write (m : String) :
    Json.Reader.whole .entries (Wire.write (ErrorBody.mk m)) = .ok [("Error", m)] := by
  rw [Json.Reader.whole, write_eq, Json.Reader.entries_singleton]
  rfl

/-- The body of a failure is read as what was written. -/
theorem read_write (b : ErrorBody) : Wire.read (Wire.write b) = .ok b :=
  (faithful.reads b b.fits).whole

end ErrorBody

namespace Http.Response

/-- The challenge comes with the status that asks for it, and with no other. -/
theorem header?_ofFailure (f : Failure) :
    (ofFailure f).header? "www-authenticate" =
      if f.status = 401 then some "Basic realm=Bearer" else none := by
  unfold ofFailure
  by_cases h : f.status = 401
  · rw [if_pos (Failure.challenges_iff.mpr h), if_pos h]
    rfl
  · rw [if_neg (mt Failure.challenges_iff.mp h), if_neg h]
    rfl

/-- What caused a failure leaves no trace in its response. -/
theorem ofFailure_congr {f g : Failure} (h : f.Alike g) : ofFailure f = ofFailure g := by
  obtain ⟨code, message, causes⟩ := f
  obtain ⟨code', message', causes'⟩ := g
  obtain ⟨rfl, rfl⟩ := h
  rfl

end Http.Response

end TokenMint
