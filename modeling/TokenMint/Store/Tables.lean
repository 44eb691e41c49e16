import TokenMint.Model
import TokenMint.Store.Expiry
import TokenMint.Store.Fault
import TokenMint.Store.Table

/-! # The tables of the store

Six tables hold users, clients, scopes, the two kinds of token, and which scopes an access token
has. Names and tokens are unique; an access token has one owner and one refresh token, which no
other has. A row that refers to another goes when that one goes. -/

namespace TokenMint.Store

/-! ## Rows -/

structure RefreshRow where
  id : Int
  token : String
  expiry : Expiry
deriving DecidableEq, Repr

structure AccessRow where
  id : Int
  token : String
  expiry : Expiry
  clientId : Option Int
  userId : Option Int
  refreshTokenId : Int
deriving DecidableEq, Repr

/-- That an access token has a scope. -/
structure Link where
  accessTokenId : Int
  scopeId : Int
deriving DecidableEq, Repr

/-- The token that a row holds, if its expiry can be read. -/
def RefreshRow.token? (r : RefreshRow) : Option RefreshToken := do
  return { id := r.id, token := r.token, expiresAt := ← r.expiry.instant? }

/-- The token that a row holds, if its expiry can be read. -/
def AccessRow.token? (r : AccessRow) : Option AccessToken := do
  return {
    id := r.id
    token := r.token
    expiresAt := ← r.expiry.instant?
    clientId := r.clientId
    userId := r.userId
    refreshTokenId := r.refreshTokenId }

/-! ## Names of tables -/

inductive TableName where
  | users
  | clients
  | scopes
  | refreshTokens
  | accessTokens
  | links
deriving DecidableEq, Repr

namespace TableName

def all : List TableName := [users, clients, scopes, refreshTokens, accessTokens, links]

def name : TableName → String
  | users => "users"
  | clients => "clients"
  | scopes => "scopes"
  | refreshTokens => "refresh_tokens"
  | accessTokens => "access_tokens"
  | links => "access_token_scopes"

def ofName? (s : String) : Option TableName := all.find? (·.name = s)

/-- The tables that the rows of a table refer to. -/
def parents : TableName → List TableName
  | accessTokens => [clients, users, refreshTokens]
  | links => [accessTokens, scopes]
  | _ => []

end TableName

/-! ## The tables together -/

/-- The contents of the store. -/
structure Tables where
  users : Table User := {}
  clients : Table Client := {}
  scopes : Table Scope := {}
  refreshTokens : Table RefreshRow := {}
  accessTokens : Table AccessRow := {}
  links : List Link := []
deriving DecidableEq, Repr

namespace Tables

variable (t : Tables)

/-- The number of rows of a table. -/
def count : TableName → Nat
  | .users => t.users.rows.length
  | .clients => t.clients.rows.length
  | .scopes => t.scopes.rows.length
  | .refreshTokens => t.refreshTokens.rows.length
  | .accessTokens => t.accessTokens.rows.length
  | .links => t.links.length

/-! ### Adding rows -/

def addUser (username hash : String) : Except Fault (Int × Tables) :=
  if t.users.rows.any (·.username = username) then .error .unique
  else .ok (t.users.next, { t with users := t.users.add fun id ↦ { id, username, hash } })

def addClient (clientId hash : String) : Except Fault (Int × Tables) :=
  if t.clients.rows.any (·.clientId = clientId) then .error .unique
  else .ok (t.clients.next, { t with clients := t.clients.add fun id ↦ { id, clientId, hash } })

def addScope (name : String) (isDefault : Bool) : Except Fault (Int × Tables) :=
  if t.scopes.rows.any (·.name = name) then .error .unique
  else .ok (t.scopes.next, { t with scopes := t.scopes.add fun id ↦ { id, name, isDefault } })

def addRefresh (token : String) (expiry : Expiry) : Except Fault (Int × Tables) :=
  if t.refreshTokens.rows.any (·.token = token) then .error .unique
  else
    .ok (t.refreshTokens.next,
      { t with refreshTokens := t.refreshTokens.add fun id ↦ { id, token, expiry } })

/-- Whether the owners that two columns name are there. -/
def ownersExist (clientId userId : Option Int) : Bool :=
  clientId.all (fun c ↦ t.clients.rows.any (·.id = c))
    && userId.all fun u ↦ t.users.rows.any (·.id = u)

/-- The rule of the table comes first, then what is unique, and the rows referred to last. -/
def addAccess (token : String) (expiry : Expiry) (clientId userId : Option Int)
    (refreshTokenId : Int) : Except Fault (Int × Tables) :=
  if clientId.isSome = userId.isSome then .error .check
  else if t.accessTokens.rows.any fun r ↦ r.token = token || r.refreshTokenId = refreshTokenId then
    .error .unique
  else if ¬ (t.ownersExist clientId userId
      && t.refreshTokens.rows.any (·.id = refreshTokenId)) then
    .error .foreignKey
  else
    .ok (t.accessTokens.next,
      { t with
        accessTokens := t.accessTokens.add fun id ↦
          { id, token, expiry, clientId, userId, refreshTokenId } })

def addLink (accessTokenId scopeId : Int) : Except Fault (Unit × Tables) :=
  let link : Link := { accessTokenId, scopeId }
  if link ∈ t.links then .error .unique
  else if ¬ (t.accessTokens.rows.any (·.id = accessTokenId)
      && t.scopes.rows.any (·.id = scopeId)) then
    .error .foreignKey
  else .ok ((), { t with links := t.links ++ [link] })

/-! ### Taking rows away -/

/-- Takes away the access tokens of a kind, and with them their links. -/
def removeAccess (gone : AccessRow → Bool) : Tables :=
  { t with
    accessTokens := t.accessTokens.keep fun r ↦ !gone r
    links := t.links.filter fun l ↦
      !t.accessTokens.rows.any fun r ↦ gone r && r.id = l.accessTokenId }

def removeUser (id : Int) : Tables :=
  let t := t.removeAccess (·.userId = some id)
  { t with users := t.users.keep (·.id ≠ id) }

def removeClient (id : Int) : Tables :=
  let t := t.removeAccess (·.clientId = some id)
  { t with clients := t.clients.keep (·.id ≠ id) }

def removeScope (id : Int) : Tables :=
  { t with scopes := t.scopes.keep (·.id ≠ id), links := t.links.filter (·.scopeId ≠ id) }

def removeRefresh (id : Int) : Tables :=
  let t := t.removeAccess (·.refreshTokenId = id)
  { t with refreshTokens := t.refreshTokens.keep (·.id ≠ id) }

/-- Takes away the links of the access tokens issued with a refresh token. -/
def unlink (refreshTokenId : Int) : Tables :=
  { t with
    links := t.links.filter fun l ↦
      !t.accessTokens.rows.any fun r ↦
        r.refreshTokenId = refreshTokenId && r.id = l.accessTokenId }

/-- Takes away the row of a table with a number. Links have no numbers of their own. -/
def remove : TableName → Int → Tables
  | .users, id => t.removeUser id
  | .clients, id => t.removeClient id
  | .scopes, id => t.removeScope id
  | .refreshTokens, id => t.removeRefresh id
  | .accessTokens, id => t.removeAccess (·.id = id)
  | .links, _ => t

/-- Takes away all rows of a table, and its count. -/
def clear : TableName → Tables
  | .users =>
    let t := t.removeAccess (·.userId.isSome)
    { t with users := {} }
  | .clients =>
    let t := t.removeAccess (·.clientId.isSome)
    { t with clients := {} }
  | .scopes => { t with scopes := {}, links := [] }
  | .refreshTokens =>
    let t := t.removeAccess fun _ ↦ true
    { t with refreshTokens := {} }
  | .accessTokens => { t with accessTokens := {}, links := [] }
  | .links => { t with links := [] }

/-! ### Looking rows up -/

/-- Whether one text comes before or is another, by the bytes of their coding. -/
def byBytes (a b : String) : Bool := decide (a.toUTF8.data.toList ≤ b.toUTF8.data.toList)

/-- The default scopes, in the order of their names. -/
def defaultScopes : List Scope :=
  (t.scopes.rows.filter (·.isDefault)).mergeSort fun a b ↦ byBytes a.name b.name

/-- The names of the scopes that an access token has, in order. -/
def scopesOf (accessTokenId : Int) : List String :=
  ((t.scopes.rows.filter fun s ↦ t.links.any fun l ↦
    l.accessTokenId = accessTokenId && l.scopeId = s.id).map (·.name)).mergeSort byBytes

end Tables

end TokenMint.Store
