import TokenMint.Grant.Program

/-! # The turns of a program

A program and its surroundings take turns: it asks, they reply.  What it asks is its own, and what
they reply may be anything; so a list of turns that a program can take is one way in which some
surroundings, however they behave, can deal with it. -/

namespace TokenMint

namespace Program

variable {α β : Type}

/-- `p.Leads t q` says that after the turns `t` what remains of `p` is `q`. -/
inductive Leads : Program α → List Turn → Program α → Prop where
  | refl (p : Program α) : Leads p [] p
  | ask {c : Call} {next : c.Reply → Program α} {r : c.Reply} {t : List Turn} {q : Program α}
      (h : Leads (next r) t q) : Leads (.ask c next) (⟨c, r⟩ :: t) q

namespace Leads

variable {p q q' : Program α} {t t' : List Turn}

theorem trans (h : p.Leads t q) (h' : q.Leads t' q') : p.Leads (t ++ t') q' := by
  induction h with
  | refl p => exact h'
  | ask h ih => exact .ask (ih h')

/-- One more turn. -/
theorem turn {c : Call} {next : c.Reply → Program α} (h : p.Leads t (.ask c next)) (r : c.Reply) :
    p.Leads (t ++ [⟨c, r⟩]) (next r) :=
  h.trans (.ask (.refl _))

theorem nil (h : p.Leads [] q) : p = q := by
  cases h
  rfl

/-- What remains after some turns takes the others. -/
theorem rest (h : p.Leads t q) (h' : p.Leads (t ++ t') q') : q.Leads t' q' := by
  induction h with
  | refl p => exact h'
  | ask h ih =>
    cases h' with
    | ask h' => exact ih h'

/-- A result leaves nothing to ask. -/
theorem done {a : α} (h : (done a).Leads t q) : t = [] ∧ q = .done a := by
  cases h
  exact ⟨rfl, rfl⟩

theorem asked {c : Call} {f : c.Reply → Program α} {r : c.Reply} (h : (f r).Leads t q) :
    (Program.call c >>= f).Leads (⟨c, r⟩ :: t) q :=
  .ask h

/-- A program with a question to begin with takes a turn before it is done. -/
theorem call {c : Call} {f : c.Reply → Program α} {a : α}
    (h : (Program.call c >>= f).Leads t (.done a)) :
    ∃ r t', t = ⟨c, r⟩ :: t' ∧ (f r).Leads t' (.done a) := by
  cases h with
  | ask h => exact ⟨_, _, rfl, h⟩

/-- One program after another is done when both are. -/
theorem bind {p : Program α} {f : α → Program β} {b : β} (h : (p >>= f).Leads t (.done b)) :
    ∃ a t₁ t₂, t = t₁ ++ t₂ ∧ p.Leads t₁ (.done a) ∧ (f a).Leads t₂ (.done b) := by
  induction p generalizing t with
  | done a => exact ⟨a, [], t, rfl, .refl _, h⟩
  | ask c next ih =>
    cases h with
    | ask h =>
      obtain ⟨a, t₁, t₂, rfl, h₁, h₂⟩ := ih _ h
      exact ⟨a, _ :: t₁, t₂, rfl, .ask h₁, h₂⟩

end Leads

/-- A program goes on from the reply to its question, and from the state that this leaves. -/
theorem run_ask {σ : Type} (answer : (c : Call) → StateM σ c.Reply) (c : Call)
    (next : c.Reply → Program α) (s : σ) :
    (ask c next).run answer s = (next (answer c s).1).run answer (answer c s).2 := rfl

/-- The replies of surroundings with a state, with every turn written down. -/
def recorded {σ : Type} (answer : (c : Call) → StateM σ c.Reply) (c : Call) :
    StateM (List Turn × σ) c.Reply := fun s ↦
  let (r, s') := answer c s.2
  (r, s.1 ++ [⟨c, r⟩], s')

/-- However surroundings reply, the turns that they write down are turns of the program, and but for
these the run is the same. -/
theorem run_recorded {σ : Type} (answer : (c : Call) → StateM σ c.Reply) (p : Program α)
    (t : List Turn) (s : σ) :
    ∃ u, p.Leads u (.done (p.run answer s).1) ∧
      p.run (recorded answer) (t, s) = ((p.run answer s).1, t ++ u, (p.run answer s).2) := by
  induction p generalizing t s with
  | done a => exact ⟨[], .refl _, by rw [List.append_nil]; rfl⟩
  | ask c next ih =>
    obtain ⟨u, h, hrun⟩ := ih (answer c s).1 (t ++ [⟨c, (answer c s).1⟩]) (answer c s).2
    refine ⟨⟨c, (answer c s).1⟩ :: u, .ask h, ?_⟩
    rw [List.append_assoc] at hrun
    exact hrun

/-- Whatever is asked can be replied to. -/
instance (c : Call) : Nonempty c.Reply := by
  cases c with
  | verify => exact ⟨false⟩
  | now => exact ⟨⟨0, 0⟩⟩
  | freshToken => exact ⟨""⟩
  | storePair => exact ⟨.error (.superseded 0)⟩
  | _ => exact ⟨.error .unauthorized⟩

/-- Every program can be brought to an end. -/
theorem exists_leads_done (p : Program α) : ∃ t a, p.Leads t (.done a) := by
  induction p with
  | done a => exact ⟨[], a, .refl _⟩
  | ask c next ih =>
    obtain ⟨r⟩ := (inferInstance : Nonempty c.Reply)
    obtain ⟨t, a, h⟩ := ih r
    exact ⟨_ :: t, a, .ask h⟩

end Program

end TokenMint
