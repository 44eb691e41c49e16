import TokenMint.Config
import TokenMint.Failure
import TokenMint.Grant.Response
import TokenMint.Json.Record
import TokenMint.Json.Tree
import TokenMint.Model

/-! # Values on the wire

How the values that cross the boundary of the server are written as JSON and read back. -/

namespace TokenMint

/-- A type whose values are written as JSON and read back. -/
class Wire (α : Type) where
  tree : α → Json.Tree
  reader : Json.Reader α

namespace Wire

/-- The JSON text of a value. -/
def write {α : Type} [Wire α] (a : α) : String := (tree a).render

/-- The value that a JSON text holds. -/
def read {α : Type} [Wire α] (s : String) : Except Json.Fault α := Json.Reader.whole reader s

/-- A field read by `r` and put in by `put`. -/
def field {σ β : Type} (name : String) (known : σ → Bool) (r : Json.Reader β)
    (put : β → σ → σ) : Json.Field σ :=
  { name, known, read := put <$> r }

end Wire

open Json (Tree Record Reader)

open Wire (field)

open Text.Decimal (Range)

/-! ## Token responses -/

/-- A token response of which some fields are known. -/
structure TokenResponse.Known where
  id : Option Int := none
  accessToken : Option String := none
  expiresIn : Option Int := none
  tokenType : Option String := none
  scope : Option String := none
  refreshToken : Option String := none

def TokenResponse.record : Record TokenResponse.Known TokenResponse where
  start := {}
  fields := [
    field "id" (·.id.isSome) (Reader.int .signed64) fun v s ↦ { s with id := some v },
    field "access_token" (·.accessToken.isSome) Reader.text
      fun v s ↦ { s with accessToken := some v },
    field "expires_in" (·.expiresIn.isSome) (Reader.int .signed64)
      fun v s ↦ { s with expiresIn := some v },
    field "token_type" (·.tokenType.isSome) Reader.text fun v s ↦ { s with tokenType := some v },
    field "scope" (·.scope.isSome) Reader.text fun v s ↦ { s with scope := some v },
    field "refresh_token" (·.refreshToken.isSome) Reader.text
      fun v s ↦ { s with refreshToken := some v }]
  finish s := do
    return {
      id := ← s.id
      accessToken := ← s.accessToken
      expiresIn := ← s.expiresIn
      tokenType := ← s.tokenType
      scope := ← s.scope
      refreshToken := ← s.refreshToken }

instance : Wire TokenResponse where
  tree r := .object [
    ("id", .int r.id), ("access_token", .text r.accessToken), ("expires_in", .int r.expiresIn),
    ("token_type", .text r.tokenType), ("scope", .text r.scope),
    ("refresh_token", .text r.refreshToken)]
  reader := TokenResponse.record.read

/-! ## Failures -/

/-- The body of a response that reports a failure. -/
structure ErrorBody where
  error : String
deriving DecidableEq, Repr

def ErrorBody.record : Record (Option String) ErrorBody where
  start := none
  fields := [field "Error" (·.isSome) Reader.text fun v _ ↦ some v]
  finish s := s.map .mk

instance : Wire ErrorBody where
  tree b := .object [("Error", .text b.error)]
  reader := ErrorBody.record.read

instance : Wire Failure.Code where
  tree c := .text c.name
  reader := Reader.variant Failure.Code.ofName? fun _ ↦ none

/-! ## Scopes and owners -/

/-- A scope of which some fields are known. -/
structure Scope.Known where
  id : Option Int := none
  name : Option String := none
  isDefault : Option Bool := none

def Scope.record : Record Scope.Known Scope where
  start := {}
  fields := [
    field "id" (·.id.isSome) (Reader.int .signed64) fun v s ↦ { s with id := some v },
    field "scope" (·.name.isSome) Reader.text fun v s ↦ { s with name := some v },
    field "is_default" (·.isDefault.isSome) Reader.bool fun v s ↦ { s with isDefault := some v }]
  finish s := do return { id := ← s.id, name := ← s.name, isDefault := ← s.isDefault }

instance : Wire Scope where
  tree s := .object [("id", .int s.id), ("scope", .text s.name), ("is_default", .bool s.isDefault)]
  reader := Scope.record.read

/-- The reader of an owner's id, by the kind of owner. -/
def Owner.content? (kind : String) : Option (Reader Owner) :=
  if kind = "Client" then some (Owner.client <$> Reader.int .signed64)
  else if kind = "User" then some (Owner.user <$> Reader.int .signed64)
  else none

instance : Wire Owner where
  tree
    | .client id => .object [("Client", .int id)]
    | .user id => .object [("User", .int id)]
  reader := Reader.variant (fun _ ↦ none) Owner.content?

/-! ## Configurations -/

instance : Wire Environment where
  tree e := .text e.name
  reader := Reader.variant Environment.ofName? fun _ ↦ none

def Location.record : Record (Option String) Location where
  start := none
  fields := [field "path" (·.isSome) Reader.text fun v _ ↦ some v]
  finish s := s.map .file

instance : Wire Location where
  tree
    | .file path => .object [("SQLite", .object [("path", .text path)])]
    | .memory => .text "Memory"
  reader := Reader.variant (fun name ↦ if name = "Memory" then some .memory else none)
    fun name ↦ if name = "SQLite" then some Location.record.read else none

def Lifetimes.record : Record (Option Int × Option Int) Lifetimes where
  start := (none, none)
  fields := [
    field "access_token_secs" (·.1.isSome) (Reader.int .signed64) fun v s ↦ (some v, s.2),
    field "refresh_token_secs" (·.2.isSome) (Reader.int .signed64) fun v s ↦ (s.1, some v)]
  finish s := do return { access := ← s.1, refresh := ← s.2 }

instance : Wire Lifetimes where
  tree l := .object [("access_token_secs", .int l.access), ("refresh_token_secs", .int l.refresh)]
  reader := Lifetimes.record.read

/-- A configuration of which some fields are known. -/
structure Config.Known where
  port : Option UInt16 := none
  host : Option String := none
  location : Option Location := none
  lifetimes : Option Lifetimes := none
  cost : Option UInt32 := none
  environment : Option Environment := none

def Config.record : Record Config.Known Config where
  start := {}
  fields := [
    field "http_port" (·.port.isSome) (Reader.int .word16)
      fun v s ↦ { s with port := some (.ofNat v.toNat) },
    field "host" (·.host.isSome) Reader.text fun v s ↦ { s with host := some v },
    field "database_url" (·.location.isSome) Wire.reader fun v s ↦ { s with location := some v },
    field "token_lifetimes" (·.lifetimes.isSome) Wire.reader
      fun v s ↦ { s with lifetimes := some v },
    field "bcrypt_cost" (·.cost.isSome) (Reader.int .word32)
      fun v s ↦ { s with cost := some (.ofNat v.toNat) },
    field "environment" (·.environment.isSome) Wire.reader
      fun v s ↦ { s with environment := some v }]
  finish s := do
    return {
      port := ← s.port
      host := ← s.host
      location := ← s.location
      lifetimes := ← s.lifetimes
      cost := ← s.cost
      environment := ← s.environment }

instance : Wire Config where
  tree c := .object [
    ("http_port", .int c.port.toNat), ("host", .text c.host),
    ("database_url", Wire.tree c.location), ("token_lifetimes", Wire.tree c.lifetimes),
    ("bcrypt_cost", .int c.cost.toNat), ("environment", Wire.tree c.environment)]
  reader := Config.record.read

end TokenMint
