import TypedStorage.Base64
import TypedStorage.Codec.Session
import TypedStorage.Codec.Storable
import TypedStorage.Codec.Tagged
import TypedStorage.Double.Basic
import TypedStorage.Double.Shortest
import TypedStorage.Double.Text
import TypedStorage.Engine.Condition
import TypedStorage.Engine.Connection
import TypedStorage.Engine.Schema
import TypedStorage.Engine.Statement
import TypedStorage.Engine.Stored
import TypedStorage.Engine.Table
import TypedStorage.Engine.Visit
import TypedStorage.Error
import TypedStorage.Files.Error
import TypedStorage.Files.Folder
import TypedStorage.Files.Path
import TypedStorage.Files.Tree
import TypedStorage.Json.Basic
import TypedStorage.Json.Number
import TypedStorage.Json.Read
import TypedStorage.Json.Source
import TypedStorage.Json.Text
import TypedStorage.Json.Write
import TypedStorage.KeyMap
import TypedStorage.Preferences.Error
import TypedStorage.Preferences.Manager
import TypedStorage.Preferences.Secure
import TypedStorage.Preferences.Server
import TypedStorage.Preferences.Typed
import TypedStorage.Query.Compile
import TypedStorage.Query.Filter
import TypedStorage.Query.Json
import TypedStorage.Query.Statement
import TypedStorage.Record.Basic
import TypedStorage.Record.Code
import TypedStorage.Record.Declaration
import TypedStorage.Record.FieldType
import TypedStorage.Record.Lexeme
import TypedStorage.Record.Mapping
import TypedStorage.Record.Samples
import TypedStorage.Registry.Basic
import TypedStorage.Registry.Builder
import TypedStorage.Registry.Manager
import TypedStorage.Registry.Option
import TypedStorage.Registry.Rehearsal
import TypedStorage.Scalar.Basic
import TypedStorage.Scalar.Convert
import TypedStorage.Scalar.Json
import TypedStorage.Schema.ColumnType
import TypedStorage.Schema.Identifier
import TypedStorage.Schema.Json
import TypedStorage.Schema.Table
import TypedStorage.Settings.Basic
import TypedStorage.Settings.Environment
import TypedStorage.Settings.Error
import TypedStorage.Settings.Json
import TypedStorage.Settings.Load
import TypedStorage.Settings.Toml
import TypedStorage.Signals.Change
import TypedStorage.Signals.Error
import TypedStorage.Signals.Manager
import TypedStorage.Store.Database
import TypedStorage.Store.Error
import TypedStorage.Store.RecordStore
import TypedStorage.Store.Scripted
import TypedStorage.Store.Sqlite
import TypedStorage.Text.Blank
import TypedStorage.Text.Bytes
import TypedStorage.Text.Digits
import TypedStorage.Text.Hidden
import TypedStorage.Text.Pieces
import TypedStorage.Text.Quoted
import TypedStorage.Time.Civil
import TypedStorage.Time.Text
import TypedStorage.Time.Timestamp
import TypedStorage.Toml.Basic
import TypedStorage.Toml.Blank
import TypedStorage.Toml.Quoted
import TypedStorage.Toml.Read
import TypedStorage.Toml.Scalar
import TypedStorage.Uuid
import TypedStorage.Proofs.Base64
import TypedStorage.Proofs.Text.Digits
import TypedStorage.Proofs.Time.Civil
import TypedStorage.Proofs.Time.Text
import TypedStorage.Proofs.Double.Text
import TypedStorage.Proofs.Json.Number
import TypedStorage.Proofs.Json.String
import TypedStorage.Proofs.KeyMap
import TypedStorage.Proofs.Codec.Tagged
import TypedStorage.Proofs.Query.Erasure
import TypedStorage.Proofs.Query.Placeholders
import TypedStorage.Proofs.Query.Reader
import TypedStorage.Proofs.Query.Spelling
import TypedStorage.Proofs.Query.Template
import TypedStorage.Proofs.Query.Unambiguous
import TypedStorage.Proofs.Registry.Run
import TypedStorage.Proofs.Registry.Traffic
import TypedStorage.Proofs.Registry.Handles
import TypedStorage.Proofs.Registry.Sound
import TypedStorage.Proofs.Registry.Alone
import TypedStorage.Proofs.Registry.Sharing
import TypedStorage.Proofs.Files.Path
import TypedStorage.Proofs.Text.Colon
import TypedStorage.Proofs.Registry.Names
import TypedStorage.Proofs.Scalar.Kept
import TypedStorage.Proofs.Record.Row
import TypedStorage.Proofs.Record.Declared
import TypedStorage.Proofs.Record.Coherence
import TypedStorage.Proofs.Store.Contents
import TypedStorage.Proofs.Store.Rows
import TypedStorage.Proofs.Store.Queries
import TypedStorage.Proofs.Store.Answers
import TypedStorage.Proofs.Store.Announcements
import TypedStorage.Proofs.Store.Refinement
import TypedStorage.Proofs.Codec.Range
import TypedStorage.Proofs.Files.Confinement
import TypedStorage.Proofs.Preferences.Runs
import TypedStorage.Proofs.Json.Order
import TypedStorage.Proofs.Json.Typed
import TypedStorage.Proofs.Json.Values
import TypedStorage.Proofs.Time.Loose
import TypedStorage.Proofs.Settings.Json
import TypedStorage.Proofs.Json.Serialization
import TypedStorage.Proofs.Schema.Reader
import TypedStorage.Proofs.Schema.Cut
import TypedStorage.Proofs.Schema.Faithful
import TypedStorage.Proofs.Record.Shown
import TypedStorage.Proofs.Store.Projection
import TypedStorage.Proofs.Json.Reread
import TypedStorage.Proofs.Time.Edges
import TypedStorage.Proofs.Codec.Reread
import TypedStorage.Proofs.Store.Migration
import TypedStorage.Proofs.Schema.Clauses
import TypedStorage.Proofs.Record.Collisions
import TypedStorage.Proofs.Query.Conjunction
import TypedStorage.Proofs.Store.First
import TypedStorage.Proofs.Store.Updates
import TypedStorage.Proofs.Store.Conflicts
import TypedStorage.Proofs.Text.Order
import TypedStorage.Proofs.Time.Order
import TypedStorage.Proofs.Scalar.Literal
import TypedStorage.Proofs.Scalar.Defaults
import TypedStorage.Proofs.Store.Windows
import TypedStorage.Proofs.Double.Nearest
import TypedStorage.Proofs.Scalar.Number
import TypedStorage.Proofs.Query.Batch
import TypedStorage.Proofs.Query.Drafts
import TypedStorage.Proofs.Store.Refresh
import TypedStorage.Proofs.Codec.Kinds
import TypedStorage.Proofs.Codec.Canonical
import TypedStorage.Proofs.Registry.Building
import TypedStorage.Proofs.Schema.Names
import TypedStorage.Proofs.Registry.Configured
import TypedStorage.Proofs.Preferences.Namespaces
import TypedStorage.Proofs.Registry.Secrets
import TypedStorage.Proofs.Files.Tree
import TypedStorage.Proofs.Files.Contents
import TypedStorage.Proofs.Text.Blank
import TypedStorage.Proofs.Query.Steps
import TypedStorage.Proofs.Schema.Keywords
import TypedStorage.Proofs.Json.Distinct
import TypedStorage.Proofs.Store.RecordIds
