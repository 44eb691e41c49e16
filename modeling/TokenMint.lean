import TokenMint.Bcrypt.Cipher
import TokenMint.Bcrypt.Hash
import TokenMint.Bcrypt.Pi
import TokenMint.Bytes.Base64
import TokenMint.Bytes.Form
import TokenMint.Bytes.Utf8
import TokenMint.CommandLine.Admin
import TokenMint.CommandLine.Arguments
import TokenMint.CommandLine.Outcome
import TokenMint.CommandLine.Server
import TokenMint.Config
import TokenMint.Double
import TokenMint.Environment
import TokenMint.Failure
import TokenMint.Grant.Endpoint
import TokenMint.Grant.Program
import TokenMint.Grant.Request
import TokenMint.Grant.Response
import TokenMint.Http.Request
import TokenMint.Http.Response
import TokenMint.Http.Router
import TokenMint.Json.Reader
import TokenMint.Json.Record
import TokenMint.Json.Skip
import TokenMint.Json.Tree
import TokenMint.Lifetimes
import TokenMint.Location
import TokenMint.Log.Directive
import TokenMint.Log.Event
import TokenMint.Log.Filter
import TokenMint.Log.Level
import TokenMint.Log.Settings
import TokenMint.Main
import TokenMint.Model
import TokenMint.Proofs.Bcrypt.Key
import TokenMint.Proofs.Bcrypt.Written
import TokenMint.Proofs.Bytes.Base64
import TokenMint.Proofs.Bytes.Form
import TokenMint.Proofs.Bytes.Utf8
import TokenMint.Proofs.CommandLine.Administration
import TokenMint.Proofs.Config.Connection
import TokenMint.Proofs.Config.Loading
import TokenMint.Proofs.Config.Memory
import TokenMint.Proofs.Grant.Entitlement
import TokenMint.Proofs.Grant.Issue
import TokenMint.Proofs.Grant.Refresh
import TokenMint.Proofs.Grant.Refusal
import TokenMint.Proofs.Grant.Secret
import TokenMint.Proofs.Grant.Turn
import TokenMint.Proofs.Grant.Verdict
import TokenMint.Proofs.Http.Credentials
import TokenMint.Proofs.Http.Failure
import TokenMint.Proofs.Json.Number
import TokenMint.Proofs.Json.Record
import TokenMint.Proofs.Json.Text
import TokenMint.Proofs.Json.Wire
import TokenMint.Proofs.Log.Directive
import TokenMint.Proofs.Log.Filter
import TokenMint.Proofs.Log.Settings
import TokenMint.Proofs.Store.Account
import TokenMint.Proofs.Store.Alike
import TokenMint.Proofs.Store.Attempt
import TokenMint.Proofs.Store.Cascade
import TokenMint.Proofs.Store.Exchange
import TokenMint.Proofs.Store.Footprint
import TokenMint.Proofs.Store.Grants
import TokenMint.Proofs.Store.Integrity
import TokenMint.Proofs.Store.Ledger
import TokenMint.Proofs.Store.Live
import TokenMint.Proofs.Store.Numbering
import TokenMint.Proofs.Store.Place
import TokenMint.Proofs.Store.Readiness
import TokenMint.Proofs.Store.Registration
import TokenMint.Proofs.Store.Renumbering
import TokenMint.Proofs.Store.Reopening
import TokenMint.Proofs.Store.Rollback
import TokenMint.Proofs.Store.Scopes
import TokenMint.Proofs.Store.Statement
import TokenMint.Proofs.Store.Transaction
import TokenMint.Proofs.System.Agreement
import TokenMint.Proofs.System.Closed
import TokenMint.Proofs.System.Conservation
import TokenMint.Proofs.System.Cutoff
import TokenMint.Proofs.System.Dialogue
import TokenMint.Proofs.System.Footprint
import TokenMint.Proofs.System.History
import TokenMint.Proofs.System.Independence
import TokenMint.Proofs.System.Interchange
import TokenMint.Proofs.System.Outcome
import TokenMint.Proofs.System.Principal
import TokenMint.Proofs.System.Provision
import TokenMint.Proofs.System.Race
import TokenMint.Proofs.System.Registration
import TokenMint.Proofs.System.Rights
import TokenMint.Proofs.System.Run
import TokenMint.Proofs.System.ScopeText
import TokenMint.Proofs.System.Secrets
import TokenMint.Proofs.System.SingleUse
import TokenMint.Proofs.System.Standing
import TokenMint.Proofs.System.Supersession
import TokenMint.Proofs.System.Validity
import TokenMint.Proofs.System.Wording
import TokenMint.Proofs.Text.Decimal
import TokenMint.Proofs.Text.Pieces
import TokenMint.Proofs.Text.Words
import TokenMint.Secret
import TokenMint.Service
import TokenMint.Store.Address
import TokenMint.Store.Database
import TokenMint.Store.Disk
import TokenMint.Store.EngineError
import TokenMint.Store.Expiry
import TokenMint.Store.Fault
import TokenMint.Store.Opening
import TokenMint.Store.Pair
import TokenMint.Store.PairFault
import TokenMint.Store.Source
import TokenMint.Store.Table
import TokenMint.Store.Tables
import TokenMint.Store.Transaction
import TokenMint.System
import TokenMint.Text.Blank
import TokenMint.Text.Decimal
import TokenMint.Text.Invisible
import TokenMint.Text.Numeral
import TokenMint.Text.Pieces
import TokenMint.Text.Quoted
import TokenMint.Text.Terminal
import TokenMint.Text.Uuid
import TokenMint.Time.Calendar
import TokenMint.Time.Instant
import TokenMint.Time.Timestamp
import TokenMint.Wire
