import BearerClient.ApiCall
import BearerClient.Classify
import BearerClient.Client
import BearerClient.Config
import BearerClient.Config.Codec
import BearerClient.Config.Source
import BearerClient.Config.Toml
import BearerClient.Credential
import BearerClient.Credential.Answer
import BearerClient.Decimal.Shortest
import BearerClient.Delivery
import BearerClient.Failure
import BearerClient.Failure.Codec
import BearerClient.FileTree
import BearerClient.Json.Decoder
import BearerClient.Json.Fault
import BearerClient.Json.Number
import BearerClient.Json.Reader
import BearerClient.Json.Scan
import BearerClient.Json.Tagged
import BearerClient.Json.Value
import BearerClient.Json.Writer
import BearerClient.LogFormat
import BearerClient.Program
import BearerClient.Proofs.Classify.Agreement
import BearerClient.Proofs.Classify.ErrorBody
import BearerClient.Proofs.Classify.ErrorCode
import BearerClient.Proofs.Config.Environment
import BearerClient.Proofs.Config.Precedence
import BearerClient.Proofs.Config.RoundTrip
import BearerClient.Proofs.Config.Sheet
import BearerClient.Proofs.Config.Sources
import BearerClient.Proofs.Config.Validation
import BearerClient.Proofs.Credential.Answer
import BearerClient.Proofs.Credential.Complete
import BearerClient.Proofs.Credential.Expiry
import BearerClient.Proofs.Delivery.Agreement
import BearerClient.Proofs.Delivery.Bearer
import BearerClient.Proofs.Delivery.Budget
import BearerClient.Proofs.Delivery.Cancellation
import BearerClient.Proofs.Delivery.Causes
import BearerClient.Proofs.Delivery.Counters
import BearerClient.Proofs.Delivery.Retry
import BearerClient.Proofs.Delivery.Round
import BearerClient.Proofs.Failure.RoundTrip
import BearerClient.Proofs.Json.Decoding
import BearerClient.Proofs.Json.Escape
import BearerClient.Proofs.Json.Fields
import BearerClient.Proofs.Json.Form
import BearerClient.Proofs.Json.Layout
import BearerClient.Proofs.Json.Members
import BearerClient.Proofs.Json.Reading
import BearerClient.Proofs.Json.RoundTrip
import BearerClient.Proofs.Json.Skipping
import BearerClient.Proofs.Json.Tagged
import BearerClient.Proofs.Json.Tokens
import BearerClient.Proofs.Meeting.Debounce
import BearerClient.Proofs.Meeting.Interleaving
import BearerClient.Proofs.Meeting.Orderly
import BearerClient.Proofs.Meeting.Recording
import BearerClient.Proofs.Meeting.Renewing
import BearerClient.Proofs.Meeting.Serial
import BearerClient.Proofs.Meeting.Tasks
import BearerClient.Proofs.Meeting.Turns
import BearerClient.Proofs.Meeting.Watch
import BearerClient.Proofs.Operation.Assembly
import BearerClient.Proofs.Operation.Carries
import BearerClient.Proofs.Operation.Completeness
import BearerClient.Proofs.Operation.Endpoints
import BearerClient.Proofs.Operation.Failures
import BearerClient.Proofs.Operation.Grants
import BearerClient.Proofs.Operation.Idle
import BearerClient.Proofs.Operation.Kept
import BearerClient.Proofs.Operation.Ledger
import BearerClient.Proofs.Operation.Origin
import BearerClient.Proofs.Operation.Questions
import BearerClient.Proofs.Operation.Reachable
import BearerClient.Proofs.Operation.Refusal
import BearerClient.Proofs.Operation.Resolution
import BearerClient.Proofs.Operation.Revocation
import BearerClient.Proofs.Operation.Secrecy
import BearerClient.Proofs.Operation.Session
import BearerClient.Proofs.Operation.Source
import BearerClient.Proofs.Program.Alike
import BearerClient.Proofs.Program.Budget
import BearerClient.Proofs.Program.Calls
import BearerClient.Proofs.Program.Contract
import BearerClient.Proofs.Program.Course
import BearerClient.Proofs.Program.CutOff
import BearerClient.Proofs.Program.Events
import BearerClient.Proofs.Program.Questions
import BearerClient.Proofs.Renewal.Pacing
import BearerClient.Proofs.Store.Announced
import BearerClient.Proofs.Store.Causes
import BearerClient.Proofs.Store.Exchange
import BearerClient.Proofs.Store.Grant
import BearerClient.Proofs.Store.Introspection
import BearerClient.Proofs.Store.Outcome
import BearerClient.Proofs.Text.Integer
import BearerClient.Proofs.Text.ReadBack
import BearerClient.Proofs.Text.Utf8
import BearerClient.Proofs.Time.Delta
import BearerClient.Proofs.Time.Families
import BearerClient.Proofs.Toml.Documents
import BearerClient.Proofs.Toml.Tokens
import BearerClient.Proofs.Toml.Writing
import BearerClient.Proofs.Url.Below
import BearerClient.Proofs.Url.Joined
import BearerClient.Proofs.Url.Spaces
import BearerClient.Proofs.Wire.Collected
import BearerClient.Proofs.Wire.Header
import BearerClient.Rehearsal.Crew
import BearerClient.Rehearsal.Script
import BearerClient.Renewal
import BearerClient.Reply
import BearerClient.Store
import BearerClient.Text.Blank
import BearerClient.Text.Hidden
import BearerClient.Text.Integer
import BearerClient.Text.Quoted
import BearerClient.Text.Utf8
import BearerClient.Time.Calendar
import BearerClient.Time.Clock
import BearerClient.Time.Duration
import BearerClient.Time.Instant
import BearerClient.Toml.Document
import BearerClient.Toml.Quoted
import BearerClient.Toml.Scalar
import BearerClient.Toml.Table
import BearerClient.Url
import BearerClient.Url.Address
import BearerClient.Url.Host
import BearerClient.Url.Idna
import BearerClient.Url.Idna.Composed
import BearerClient.Url.Idna.Labels
import BearerClient.Url.Idna.Mapping
import BearerClient.Url.Idna.Punycode
import BearerClient.Url.Idna.Runs
import BearerClient.Url.Origin
import BearerClient.Url.Path
import BearerClient.Url.Percent
import BearerClient.Wire
import BearerClient.Wire.Connections
import BearerClient.Wire.Header
import BearerClient.Wire.Target
