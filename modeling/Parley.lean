import Parley.AccessToken
import Parley.AccessToken.EmbeddedKey
import Parley.Archive
import Parley.ClientEvent
import Parley.Compression.Brotli
import Parley.Compression.Brotli.Code
import Parley.Compression.Brotli.Command
import Parley.Compression.Brotli.Context
import Parley.Compression.Brotli.Dictionary
import Parley.Compression.Brotli.Words
import Parley.Compression.Decoder
import Parley.Compression.Deflate
import Parley.Compression.PrefixCode
import Parley.Conversation
import Parley.Crypto.Hmac
import Parley.Crypto.Sha256
import Parley.Database.Address
import Parley.Database.Archive
import Parley.Database.ConnectionText
import Parley.Database.Fault
import Parley.Database.Pool
import Parley.Database.Script
import Parley.Directory
import Parley.Envelope
import Parley.Environment
import Parley.Failure
import Parley.Http.Coding
import Parley.Http.Endpoint
import Parley.Http.Headers
import Parley.Http.MediaType
import Parley.Http.Phrase
import Parley.Http.Request
import Parley.Http.Service
import Parley.Http.Upgrade
import Parley.Hub
import Parley.Inbox
import Parley.Json.Basic
import Parley.Json.Double
import Parley.Json.Normal
import Parley.Json.Number
import Parley.Json.Quoted
import Parley.Json.Raw
import Parley.Json.Reader
import Parley.Json.Record
import Parley.Json.Token
import Parley.Json.Writer
import Parley.Message
import Parley.Messaging
import Parley.Pair
import Parley.Program
import Parley.Push
import Parley.Schema
import Parley.Server
import Parley.Settings
import Parley.Socket
import Parley.Store
import Parley.Surroundings
import Parley.Text.Base64Url
import Parley.Text.Blank
import Parley.Text.Decimal
import Parley.Text.Percent
import Parley.Text.Pieces
import Parley.Text.Utf8
import Parley.Time.Calendar
import Parley.Time.Instant
import Parley.Time.Rfc3339
import Parley.Proofs.Decimal
import Parley.Proofs.Keys
import Parley.Proofs.Conduct
import Parley.Proofs.Calls
import Parley.Proofs.Turns
import Parley.Proofs.Store.Shape
import Parley.Proofs.Store.Change
import Parley.Proofs.Unread
import Parley.Proofs.LastMessage
import Parley.Proofs.Store.Alike
import Parley.Proofs.Secrecy
import Parley.Proofs.Lifecycle
import Parley.Proofs.Conflict
import Parley.Proofs.Log
import Parley.Proofs.Structure
import Parley.Proofs.Spelling
import Parley.Proofs.Frame
import Parley.Proofs.Queues
import Parley.Proofs.Hub.Shape
import Parley.Proofs.Hub.History
import Parley.Proofs.Hub.Presence
import Parley.Proofs.Hub.Stream
import Parley.Proofs.Hub.Tending
import Parley.Proofs.Delivery
import Parley.Proofs.Dialogue
import Parley.Proofs.Sending
import Parley.Proofs.Faults
import Parley.Proofs.Grounds
import Parley.Proofs.Concern
import Parley.Proofs.Paging
import Parley.Proofs.Retirement
import Parley.Proofs.Database.Steady
import Parley.Proofs.Database.Transaction
import Parley.Proofs.Http.Guard
import Parley.Proofs.Http.Access
import Parley.Proofs.Hub.Sessions
import Parley.Proofs.Traffic
import Parley.Proofs.Traffic.Kept
import Parley.Proofs.Traffic.Settling
import Parley.Proofs.Traffic.Endings
import Parley.Proofs.Traffic.Operations
import Parley.Proofs.Traffic.Matching
import Parley.Proofs.Clockwork
import Parley.Proofs.Clockwork.Reaper
import Parley.Proofs.Clockwork.Heartbeat
import Parley.Proofs.Json.Grammar
import Parley.Proofs.Json.Numbers
import Parley.Proofs.Json.Values
import Parley.Proofs.Json.Order
import Parley.Proofs.Json.Forms
import Parley.Proofs.Json.Flag
import Parley.Proofs.Friends
import Parley.Proofs.Framing
import Parley.Proofs.Reading
import Parley.Proofs.Listing
import Parley.Proofs.Isolation
import Parley.Proofs.Relaying
import Parley.Proofs.Database.Attempt
import Parley.Proofs.Retrying
import Parley.Proofs.Database.Sql
import Parley.Proofs.Database.Sides
import Parley.Proofs.Time.Calendar
import Parley.Proofs.Time.Rfc3339
import Parley.Proofs.Json.Fields
import Parley.Proofs.Stability
import Parley.Proofs.ClientEvents
import Parley.Proofs.Text.Utf8
import Parley.Proofs.Text.Base64Url
import Parley.Proofs.Tokens
import Parley.Proofs.Environment
import Parley.Proofs.Database.WarmUp
import Parley.Proofs.Clockwork.Calm
import Parley.Proofs.Acceptance
import Parley.Proofs.Http.Tracing
import Parley.Proofs.Indifference
import Parley.Proofs.Http.Disclosure
import Parley.Proofs.Http.Errors
