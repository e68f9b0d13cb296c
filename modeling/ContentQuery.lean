import ContentQuery.CommandLine.Arguments
import ContentQuery.CommandLine.Directory
import ContentQuery.CommandLine.Run
import ContentQuery.Engine.Basic
import ContentQuery.Engine.Config
import ContentQuery.Engine.Metrics
import ContentQuery.Engine.Together
import ContentQuery.Filter.Basic
import ContentQuery.Filter.Compile
import ContentQuery.Filter.Match
import ContentQuery.Filter.Operator
import ContentQuery.Filter.Predicate
import ContentQuery.Filter.Shape
import ContentQuery.Index.Collection
import ContentQuery.Index.Key
import ContentQuery.Index.Tree
import ContentQuery.Index.Usage
import ContentQuery.Json.Basic
import ContentQuery.Json.Binary64
import ContentQuery.Json.Decimal
import ContentQuery.Json.Decode
import ContentQuery.Json.Order
import ContentQuery.Json.Outline
import ContentQuery.Json.Parser
import ContentQuery.Json.Printer
import ContentQuery.Json.Token
import ContentQuery.Main
import ContentQuery.Node.Basic
import ContentQuery.Node.Path
import ContentQuery.Node.Store
import ContentQuery.Pattern.Basic
import ContentQuery.Pattern.Glob
import ContentQuery.Pattern.Regex.Automaton
import ContentQuery.Pattern.Regex.Basic
import ContentQuery.Pattern.Regex.Bracket
import ContentQuery.Pattern.Regex.Class
import ContentQuery.Pattern.Regex.Escape
import ContentQuery.Pattern.Regex.Extent
import ContentQuery.Pattern.Regex.Normal
import ContentQuery.Pattern.Regex.Parser
import ContentQuery.Pattern.Regex.Stem
import ContentQuery.Pattern.Regex.WordTree
import ContentQuery.Proofs.Engine.EntryPoints
import ContentQuery.Proofs.Engine.Exchange
import ContentQuery.Proofs.Engine.Invalidation
import ContentQuery.Proofs.Engine.Links
import ContentQuery.Proofs.Engine.Refinement
import ContentQuery.Proofs.Engine.Rejections
import ContentQuery.Proofs.Engine.Skipping
import ContentQuery.Proofs.Engine.Validation
import ContentQuery.Proofs.Filter.Along
import ContentQuery.Proofs.Filter.Bounds
import ContentQuery.Proofs.Filter.Complements
import ContentQuery.Proofs.Filter.Conforming
import ContentQuery.Proofs.Filter.Derivations
import ContentQuery.Proofs.Filter.Entries
import ContentQuery.Proofs.Filter.Flattening
import ContentQuery.Proofs.Filter.Gaps
import ContentQuery.Proofs.Filter.Reading
import ContentQuery.Proofs.Filter.Unknown
import ContentQuery.Proofs.Index.KeyValues
import ContentQuery.Proofs.Index.Narrowing
import ContentQuery.Proofs.Index.Ranges
import ContentQuery.Proofs.Index.Representation
import ContentQuery.Proofs.Index.Usage
import ContentQuery.Proofs.Json.Equality
import ContentQuery.Proofs.Json.Object
import ContentQuery.Proofs.Node.OrderedMap
import ContentQuery.Proofs.Node.Places
import ContentQuery.Proofs.Query.Agreement
import ContentQuery.Proofs.Query.Grouping
import ContentQuery.Proofs.Query.Merging
import ContentQuery.Proofs.Query.Sufficient
import ContentQuery.Proofs.Query.Trie
import ContentQuery.Proofs.Schema.Built
import ContentQuery.Proofs.Schema.Closure
import ContentQuery.Proofs.Schema.Spelling
import ContentQuery.Proofs.Snapshot.Alone
import ContentQuery.Proofs.Snapshot.Arrivals
import ContentQuery.Proofs.Snapshot.Attendance
import ContentQuery.Proofs.Snapshot.Calls
import ContentQuery.Proofs.Snapshot.Coalescing
import ContentQuery.Proofs.Snapshot.Deliveries
import ContentQuery.Proofs.Snapshot.Desk
import ContentQuery.Proofs.Snapshot.Entries
import ContentQuery.Proofs.Snapshot.Failures
import ContentQuery.Proofs.Snapshot.Framing
import ContentQuery.Proofs.Snapshot.Idle
import ContentQuery.Proofs.Snapshot.Ledger
import ContentQuery.Proofs.Snapshot.Minding
import ContentQuery.Proofs.Snapshot.Queues
import ContentQuery.Proofs.Snapshot.Requests
import ContentQuery.Proofs.Snapshot.Returning
import ContentQuery.Proofs.Snapshot.Sequence
import ContentQuery.Proofs.Snapshot.Sequential
import ContentQuery.Proofs.Snapshot.Warrants
import ContentQuery.Query.Args
import ContentQuery.Query.Projection
import ContentQuery.Query.Rejection
import ContentQuery.Query.Required
import ContentQuery.Query.Run
import ContentQuery.Query.Sorting
import ContentQuery.Schema.Declared
import ContentQuery.Schema.Definition
import ContentQuery.Schema.Document
import ContentQuery.Schema.Error
import ContentQuery.Schema.Kind
import ContentQuery.Schema.Registry
import ContentQuery.Schema.Resolver
import ContentQuery.Severity
import ContentQuery.Snapshot.Agenda
import ContentQuery.Snapshot.Cache
import ContentQuery.Snapshot.Completion
import ContentQuery.Snapshot.Crowd
import ContentQuery.Snapshot.Work
import ContentQuery.Text.Blank
import ContentQuery.Text.CharSet
import ContentQuery.Text.Encoding
import ContentQuery.Text.Quoted
import ContentQuery.Text.Unicode.Age
import ContentQuery.Text.Unicode.Category
import ContentQuery.Text.Unicode.Folding
import ContentQuery.Text.Unicode.GraphemeBreak
import ContentQuery.Text.Unicode.Invisible
import ContentQuery.Text.Unicode.Letter
import ContentQuery.Text.Unicode.Property
import ContentQuery.Text.Unicode.Script
import ContentQuery.Text.Unicode.ScriptExtension
import ContentQuery.Text.Unicode.SentenceBreak
import ContentQuery.Text.Unicode.WordBreak
import ContentQuery.Text.Word
