import TokenMint.Service

/-! # Issuing a pair

To issue a pair, the clock is read once, two tokens are drawn, and the pair made of them is stored
in one go.  The response tells what has been stored, or the failure what could not be. -/

namespace TokenMint

/-- What the holder of a stored pair is told. -/
def IssuedPair.response (lifetimes : Lifetimes) (pair : NewPair) (issued : IssuedPair) :
    TokenResponse :=
  { id := issued.accessTokenId
    accessToken := pair.accessToken
    expiresIn := lifetimes.access
    tokenType := "Bearer"
    scope := Text.join " " (issued.scopes.map (·.name))
    refreshToken := pair.refreshToken }

namespace Endpoint

variable (lifetimes : Lifetimes) (owner : Owner) (supersedes : Option Int)

/-- The pair that is made of two fresh tokens at an instant. -/
def pairAt (now : Instant) (refreshToken accessToken : String) : NewPair :=
  { refreshToken
    refreshExpiresAt := now.later lifetimes.refresh
    accessToken
    accessExpiresAt := now.later lifetimes.access
    owner
    supersedes }

/-- What comes of issuing, once the store has had its say. -/
def conclude (pair : NewPair) : Except PairFault IssuedPair → Except Failure TokenResponse
  | .ok issued => .ok (issued.response lifetimes pair)
  | .error f => .error f.report

/-- Issuing asks four questions, and stores with the last of them. -/
theorem issue_eq :
    issue lifetimes owner supersedes =
      .ask .now fun now ↦ .ask .freshToken fun refreshToken ↦ .ask .freshToken fun accessToken ↦
        let pair := pairAt lifetimes owner supersedes now refreshToken accessToken
        .ask (.storePair pair) fun r ↦ .done (conclude lifetimes pair r) := by
  refine congrArg (Program.ask .now) (funext fun now ↦ ?_)
  refine congrArg (Program.ask .freshToken) (funext fun refreshToken ↦ ?_)
  refine congrArg (Program.ask .freshToken) (funext fun accessToken ↦ ?_)
  refine congrArg (Program.ask (.storePair _)) (funext fun r ↦ ?_)
  cases r <;> rfl

end Endpoint

/-- Secrets are their own hashes, it is one second later whenever the clock is read, and each token
is one letter longer than the one before. -/
def Surroundings.counting : Surroundings where
  verify secret hash := secret = hash
  placeholder := .ok ""
  clock n := { second := n }
  token n := .ofList (List.replicate (n + 1) 'a')

theorem Surroundings.counting_injective : Function.Injective counting.token := by
  intro m n h
  simpa [counting] using congrArg (·.toList.length) h

namespace Service

/-- The pair that is stored if one is issued now. -/
def drawnPair (s : Service) (env : Surroundings) (lifetimes : Lifetimes) (owner : Owner)
    (supersedes : Option Int) : NewPair :=
  Endpoint.pairAt lifetimes owner supersedes (env.clock s.readings) (env.token s.drawn)
    (env.token (s.drawn + 1))

/-- Issuing is storing the drawn pair, and telling what has come of it. -/
theorem run_issue (env : Surroundings) (o : Outage) (lifetimes : Lifetimes) (owner : Owner)
    (supersedes : Option Int) (s : Service) :
    (Endpoint.issue lifetimes owner supersedes).run (answer env o) s =
      let pair := s.drawnPair env lifetimes owner supersedes
      let (r, database) := s.database.storePair o.pair pair
      (Endpoint.conclude lifetimes pair r,
        { s with database, readings := s.readings + 1, drawn := s.drawn + 2 }) := by
  rw [Endpoint.issue_eq]
  rfl

end Service

end TokenMint
