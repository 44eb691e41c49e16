import TokenMint.Model
import TokenMint.Store.PairFault

/-! # Programs over the surroundings of a request

A request is answered by a program that asks its surroundings for one thing after another: a look
into the store, a change to it, the verification of a secret, the time, a fresh token. A program is
the tree of its questions, each with what follows upon every reply, so that one program can be run
against a store, against a script, or in turns with other programs. -/

namespace TokenMint

/-- What a program can ask for. -/
inductive Call where
  | user (username : String)
  | client (clientId : String)
  | refreshToken (token : String)
  /-- The access token issued with a refresh token. -/
  | accessToken (refreshTokenId : Int)
  /-- Stores a pair with the default scopes, or nothing. -/
  | storePair (pair : NewPair)
  | health
  | verify (secret hash : String)
  /-- The hash that secrets of unknown principals are verified against. -/
  | placeholder
  | now
  /-- A token that was never given out before. -/
  | freshToken
deriving DecidableEq, Repr

/-- The replies to a question. -/
abbrev Call.Reply : Call → Type
  | .user _ => Except Failure (Option User)
  | .client _ => Except Failure (Option Client)
  | .refreshToken _ => Except Failure (Option RefreshToken)
  | .accessToken _ => Except Failure (Option AccessToken)
  | .storePair _ => Except PairFault IssuedPair
  | .health => Except Failure Unit
  | .verify _ _ => Bool
  | .placeholder => Except Failure String
  | .now => Instant
  | .freshToken => String

/-- A question and the reply to it. -/
structure Turn where
  call : Call
  reply : call.Reply

/-- Whether a question goes to the store. -/
def Call.isStore : Call → Bool
  | .user _ | .client _ | .refreshToken _ | .accessToken _ | .storePair _ | .health => true
  | .verify _ _ | .placeholder | .now | .freshToken => false

/-- A program with results in `α`. -/
inductive Program (α : Type) where
  | done (a : α)
  | ask (c : Call) (next : c.Reply → Program α)

namespace Program

variable {α β γ : Type}

/-- Goes on with what `f` makes of the result. -/
def bind : Program α → (α → Program β) → Program β
  | done a, f => f a
  | ask c next, f => ask c fun r ↦ (next r).bind f

instance : Monad Program where
  pure := done
  bind := bind

/-- Asks one question. -/
def call (c : Call) : Program c.Reply := ask c done

theorem bind_done (p : Program α) : p.bind done = p := by
  induction p with
  | done a => rfl
  | ask c next ih => exact congrArg (ask c) (funext ih)

theorem bind_assoc (p : Program α) (f : α → Program β) (g : β → Program γ) :
    (p.bind f).bind g = p.bind fun a ↦ (f a).bind g := by
  induction p with
  | done a => rfl
  | ask c next ih => exact congrArg (ask c) (funext ih)

instance : LawfulMonad Program :=
  LawfulMonad.mk' Program bind_done (fun _ _ ↦ rfl) bind_assoc

/-- Runs a program, with every question answered in a monad. -/
def run {m : Type → Type} [Monad m] (answer : (c : Call) → m c.Reply) : Program α → m α
  | done a => pure a
  | ask c next => do (next (← answer c)).run answer

end Program

end TokenMint
