import SecondaryIndex.Bytes
import SecondaryIndex.Collections.ByteMap
import SecondaryIndex.Collections.Entries
import SecondaryIndex.Collections.InsertionMap
import SecondaryIndex.Collections.InsertionSet
import SecondaryIndex.Criteria
import SecondaryIndex.Decimal.Binary
import SecondaryIndex.Decimal.Layout
import SecondaryIndex.Decimal.Reader
import SecondaryIndex.Decimal.Shortest
import SecondaryIndex.Dialogue
import SecondaryIndex.Entity.Basic
import SecondaryIndex.Entity.Flat
import SecondaryIndex.Entity.Samples
import SecondaryIndex.Event
import SecondaryIndex.Geo
import SecondaryIndex.Geo.Document
import SecondaryIndex.Geo.Nearest
import SecondaryIndex.IndexValue
import SecondaryIndex.Json.Interest
import SecondaryIndex.Json.Path
import SecondaryIndex.Json.Printer
import SecondaryIndex.Json.Reader
import SecondaryIndex.Json.Shape
import SecondaryIndex.Json.Value
import SecondaryIndex.Keyspace
import SecondaryIndex.Page
import SecondaryIndex.Proofs.Collections
import SecondaryIndex.Proofs.Decimal.Shortest
import SecondaryIndex.Proofs.Decimal.Spelling
import SecondaryIndex.Proofs.Decimal.Widening
import SecondaryIndex.Proofs.Entity.Attaching
import SecondaryIndex.Proofs.Entity.Bounds
import SecondaryIndex.Proofs.Entity.Collisions
import SecondaryIndex.Proofs.Entity.Faults
import SecondaryIndex.Proofs.Entity.Indexing
import SecondaryIndex.Proofs.Entity.Lens
import SecondaryIndex.Proofs.Entity.RoundTrip
import SecondaryIndex.Proofs.Geo.Nearest
import SecondaryIndex.Proofs.Json.Distinct
import SecondaryIndex.Proofs.Json.Growth
import SecondaryIndex.Proofs.Json.Slots
import SecondaryIndex.Proofs.Json.Spots
import SecondaryIndex.Proofs.Keys
import SecondaryIndex.Proofs.Outcomes
import SecondaryIndex.Proofs.Page
import SecondaryIndex.Proofs.Query.Actions
import SecondaryIndex.Proofs.Query.Addressing
import SecondaryIndex.Proofs.Query.CallOrder
import SecondaryIndex.Proofs.Query.Conjunction
import SecondaryIndex.Proofs.Query.Counting
import SecondaryIndex.Proofs.Query.Courses
import SecondaryIndex.Proofs.Query.FullScan
import SecondaryIndex.Proofs.Query.Interference
import SecondaryIndex.Proofs.Query.Local
import SecondaryIndex.Proofs.Query.Merging
import SecondaryIndex.Proofs.Query.Moments
import SecondaryIndex.Proofs.Query.Narrowing
import SecondaryIndex.Proofs.Query.Pages
import SecondaryIndex.Proofs.Query.Paging
import SecondaryIndex.Proofs.Query.Plans
import SecondaryIndex.Proofs.Query.Registered
import SecondaryIndex.Proofs.Query.Reordering
import SecondaryIndex.Proofs.Query.Separation
import SecondaryIndex.Proofs.Query.Settling
import SecondaryIndex.Proofs.Query.Skipping
import SecondaryIndex.Proofs.Query.Stages
import SecondaryIndex.Proofs.Query.Unordered
import SecondaryIndex.Proofs.Remote.Agreement
import SecondaryIndex.Proofs.Remote.Block
import SecondaryIndex.Proofs.Remote.Database
import SecondaryIndex.Proofs.Remote.Equivalence
import SecondaryIndex.Proofs.Remote.Race
import SecondaryIndex.Proofs.Remote.Server
import SecondaryIndex.Proofs.Schema
import SecondaryIndex.Proofs.Sorting
import SecondaryIndex.Proofs.Store.Commutation
import SecondaryIndex.Proofs.Store.Consistency
import SecondaryIndex.Proofs.Store.Effect
import SecondaryIndex.Proofs.Store.History
import SecondaryIndex.Proofs.Store.Isolation
import SecondaryIndex.Proofs.Store.Keyspaces
import SecondaryIndex.Proofs.Store.Order
import SecondaryIndex.Proofs.Store.Overwriting
import SecondaryIndex.Proofs.Store.SetAlgebra
import SecondaryIndex.Query.Basic
import SecondaryIndex.Query.Catalogue
import SecondaryIndex.Query.Plan
import SecondaryIndex.Query.Selection
import SecondaryIndex.Record
import SecondaryIndex.Remote.Command
import SecondaryIndex.Remote.Exchange
import SecondaryIndex.Remote.Link
import SecondaryIndex.Remote.Reply
import SecondaryIndex.Schema
import SecondaryIndex.Session
import SecondaryIndex.Settings.Address
import SecondaryIndex.Settings.Basic
import SecondaryIndex.Sorting
import SecondaryIndex.Store.Basic
import SecondaryIndex.Store.Change
import SecondaryIndex.Store.Local
import SecondaryIndex.Store.Lookup
import SecondaryIndex.Store.Request
import SecondaryIndex.Store.Update
import SecondaryIndex.Text.Base64
import SecondaryIndex.Text.Digits
import SecondaryIndex.Text.Printable
import SecondaryIndex.Text.Quoted
import SecondaryIndex.Text.White
import SecondaryIndex.Yaml.Document
import SecondaryIndex.Yaml.Meaning
import SecondaryIndex.Yaml.Node
import SecondaryIndex.Yaml.Place
import SecondaryIndex.Yaml.Scalar.Block
import SecondaryIndex.Yaml.Scalar.Plain
import SecondaryIndex.Yaml.Scalar.Quoted
import SecondaryIndex.Yaml.Tag
import SecondaryIndex.Yaml.Token
import SecondaryIndex.Yaml.Token.Lexer
