import Messaging.Log.Line
import Messaging.Main
import Messaging.Program
import Messaging.Proofs.Calendar
import Messaging.Proofs.Number.BigEndian
import Messaging.Proofs.Text.Utf8
import Messaging.Proofs.Timestamp
import Messaging.Proofs.Store.Rows
import Messaging.Proofs.Cql.Command
import Messaging.Proofs.Cql.Row
import Messaging.Proofs.Cql.Server
import Messaging.Proofs.Cql.Record
import Messaging.Proofs.Cql.Repository
import Messaging.Proofs.Cql.History
import Messaging.Proofs.Api
import Messaging.Proofs.Api.Layers
import Messaging.Proofs.Session.Calls
import Messaging.Proofs.Session.Accounting
import Messaging.Proofs.Text.Hex
import Messaging.Proofs.Uuid.Spelling
import Messaging.Proofs.Text.Decimal
import Messaging.Proofs.Timestamp.Rfc3339
import Messaging.Proofs.Json.Strings
import Messaging.Proofs.Message.Document
import Messaging.Proofs.Session.Rows
import Messaging.Proofs.Session.Fetching
import Messaging.Proofs.Config.CommandLine
import Messaging.Proofs.Config.Resolution
import Messaging.Proofs.Cql.Script
import Messaging.Proofs.Cql.Startup
import Messaging.Proofs.Program
import Messaging.Proofs.Session.Simulation
import Messaging.Proofs.Session.Tables
import Messaging.Proofs.Session.Writes
import Messaging.Proofs.Session.Mirror
import Messaging.Proofs.Concurrency.System
import Messaging.Proofs.Concurrency.Stages
import Messaging.Proofs.Concurrency.Delivery
import Messaging.Proofs.Concurrency.NothingLost
import Messaging.Proofs.Config.Password
import Messaging.Proofs.Session.Observer
import Messaging.Proofs.Session.Clients
import Messaging.Proofs.Cql.Restarts
import Messaging.Proofs.Session.Discretion
import Messaging.Proofs.Cql.Growth
import Messaging.Proofs.Cql.Settling
import Messaging.Proofs.Cql.Deployment
import Messaging.Proofs.Session.Indistinct
import Messaging.Proofs.Message.RoundTrip
import Messaging.Proofs.Cql.Lexis
import Messaging.Proofs.Cql.Keyspace
import Messaging.Proofs.Http.ContentType
import Messaging.Proofs.Api.Recorded
import Messaging.Proofs.Api.Submission
import Messaging.Proofs.Api.Lookup
import Messaging.Proofs.Uuid.Fields
import Messaging.Proofs.Api.RequestIdentity
import Messaging.Proofs.Session.Identities
import Messaging.Proofs.Api.RequestLog
import Messaging.Proofs.Http.Percent
import Messaging.Proofs.Json.Grammar
import Messaging.Proofs.Json.Settled
import Messaging.Proofs.Message.Values
import Messaging.Proofs.Message.Members
import Messaging.Proofs.Api.Spelling
import Messaging.Proofs.Cql.RoundTrip
import Messaging.Proofs.Cql.Columns
import Messaging.Proofs.Cql.Reply
import Messaging.Proofs.Cql.RowReading
import Messaging.Proofs.Json.Unescaped
import Messaging.Proofs.Api.Reshaping
import Messaging.Proofs.Number.Bounded
import Messaging.Proofs.Config.Replacement
import Messaging.Proofs.Config.Numbers
