import Outbox.Decimal.Binary64
import Outbox.Decimal.Double
import Outbox.Decimal.Integer
import Outbox.Decimal.Shortest
import Outbox.Dialect
import Outbox.Executor
import Outbox.Json.Grammar
import Outbox.Json.Number
import Outbox.Json.Quoted
import Outbox.Json.Reading
import Outbox.Json.Tree
import Outbox.Json.Value
import Outbox.Log
import Outbox.Log.Filter
import Outbox.Log.Subscriber
import Outbox.Message.Basic
import Outbox.Message.Draft
import Outbox.Message.Form
import Outbox.Message.Json
import Outbox.Message.ObjectType
import Outbox.Pattern.Basic
import Outbox.Pattern.Brackets
import Outbox.Pattern.Escape
import Outbox.Pattern.Expression
import Outbox.Permission.Json
import Outbox.Permission.Tuple
import Outbox.Postgres.Binding
import Outbox.Postgres.Schema
import Outbox.Postgres.Server
import Outbox.Postgres.Session
import Outbox.Proofs.Publisher.Course
import Outbox.Proofs.Publisher.Insertion
import Outbox.Publisher.Config
import Outbox.Publisher.Notice
import Outbox.Publisher.Publish
import Outbox.Retry
import Outbox.Scope
import Outbox.Settings.Basic
import Outbox.Settings.Database
import Outbox.Settings.Defect
import Outbox.Settings.Dotenv
import Outbox.Settings.Dotenv.Line
import Outbox.Settings.Dotenv.Value
import Outbox.Settings.File
import Outbox.Settings.Load
import Outbox.Settings.Logging
import Outbox.Settings.Path
import Outbox.Settings.Publisher
import Outbox.Settings.Reading
import Outbox.Settings.Setting
import Outbox.Settings.Toml
import Outbox.Settings.Toml.Document
import Outbox.Settings.Toml.Item
import Outbox.Settings.Toml.Moment
import Outbox.Settings.Toml.Number
import Outbox.Settings.Toml.Text
import Outbox.Settings.Variable
import Outbox.Statement
import Outbox.Store.Memory
import Outbox.Store.Scripted
import Outbox.Table.Injection
import Outbox.Table.Name
import Outbox.Text.Alphanumeric
import Outbox.Text.Blank
import Outbox.Text.Cased
import Outbox.Text.CharSet
import Outbox.Text.Hex
import Outbox.Text.Lowercase
import Outbox.Text.Mark
import Outbox.Text.Search
import Outbox.Time.Calendar
import Outbox.Time.Duration
import Outbox.Time.Notation
import Outbox.Time.Timestamp
import Outbox.Uuid
import Outbox.Violation
import Outbox.Proofs.Publisher.Trace
import Outbox.Proofs.Publisher.Outcome
import Outbox.Proofs.Store.Memory
import Outbox.Proofs.Store.Resumption
import Outbox.Proofs.Store.Effect
import Outbox.Proofs.Waiting
import Outbox.Proofs.Publisher.Timeline
import Outbox.Proofs.Publisher.Batches
import Outbox.Proofs.Publisher.RowCount
import Outbox.Proofs.Publisher.Caller
import Outbox.Proofs.Store.Sharing
import Outbox.Proofs.Statement
import Outbox.Proofs.Postgres.Execution
import Outbox.Proofs.Postgres.LifeCycle
import Outbox.Proofs.Postgres.Atomicity
import Outbox.Proofs.Json.Source
import Outbox.Proofs.Time.Notation
import Outbox.Proofs.Json.Language
import Outbox.Proofs.Json.Record
import Outbox.Proofs.Message.Raw
import Outbox.Proofs.Message.Filling
import Outbox.Proofs.Message.RoundTrip
import Outbox.Proofs.Json.Limits
import Outbox.Proofs.Message.Body
import Outbox.Proofs.Postgres.Binding
import Outbox.Proofs.Message.Drafting
import Outbox.Proofs.Permission.Notation
import Outbox.Proofs.Table.Injection
import Outbox.Proofs.Permission.RoundTrip
import Outbox.Proofs.Publisher.Warning
import Outbox.Proofs.Settings.Publisher
import Outbox.Proofs.Settings.Tree
import Outbox.Proofs.Settings.File
import Outbox.Proofs.Settings.Variable
import Outbox.Proofs.Settings.Layers
import Outbox.Proofs.Settings.Place
import Outbox.Proofs.Settings.TableName
import Outbox.Proofs.Publisher.Schedule
import Outbox.Proofs.Publisher.Report
import Outbox.Proofs.Driving
import Outbox.Proofs.Postgres.Refusal
import Outbox.Proofs.Publisher.Simulation
import Outbox.Proofs.Postgres.Pooling
import Outbox.Proofs.Store.History
import Outbox.Proofs.Json.Member
import Outbox.Proofs.Time.Epoch
import Outbox.Proofs.Message.Gate
import Outbox.Proofs.Permission.Building
import Outbox.Proofs.Table.Verdict
import Outbox.Proofs.Table.Detection
import Outbox.Proofs.Message.ObjectType
import Outbox.Proofs.Message.Enclosing
import Outbox.Proofs.Message.SnakeCase
import Outbox.Proofs.Retry.Wait
import Outbox.Proofs.Scope.Deadline
import Outbox.Proofs.Time.Words
import Outbox.Proofs.Retry.Backoff
