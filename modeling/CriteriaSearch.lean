import CriteriaSearch.Backend.Basic
import CriteriaSearch.Backend.Client
import CriteriaSearch.Backend.Cursor
import CriteriaSearch.Backend.Hit
import CriteriaSearch.Backend.Memory
import CriteriaSearch.Backend.Request
import CriteriaSearch.CommandLine
import CriteriaSearch.Condition.Basic
import CriteriaSearch.Condition.Code
import CriteriaSearch.Condition.Decoding
import CriteriaSearch.Domain.Basic
import CriteriaSearch.Domain.Label
import CriteriaSearch.Domain.Mapping
import CriteriaSearch.FileTree
import CriteriaSearch.Http.Exchange
import CriteriaSearch.Http.Wire
import CriteriaSearch.Json.Basic
import CriteriaSearch.Json.Decoding
import CriteriaSearch.Json.Number
import CriteriaSearch.Json.Printer
import CriteriaSearch.Json.Reading
import CriteriaSearch.Main
import CriteriaSearch.Members
import CriteriaSearch.Number.Binary64
import CriteriaSearch.Number.Decimal
import CriteriaSearch.Number.Shortest
import CriteriaSearch.Paging.Basic
import CriteriaSearch.Paging.Calendar
import CriteriaSearch.Paging.Decoding
import CriteriaSearch.Query.Basic
import CriteriaSearch.Query.Compilation
import CriteriaSearch.Search.Basic
import CriteriaSearch.Search.Error
import CriteriaSearch.Search.Page
import CriteriaSearch.Search.Stream
import CriteriaSearch.Search.Stream.Basic
import CriteriaSearch.Search.Stream.Step
import CriteriaSearch.Search.Transform
import CriteriaSearch.Settings.Basic
import CriteriaSearch.Settings.Decoding
import CriteriaSearch.Settings.Environment
import CriteriaSearch.Settings.Loading
import CriteriaSearch.Settings.Yaml
import CriteriaSearch.Text.Base64
import CriteriaSearch.Text.Blank
import CriteriaSearch.Text.CodeTable
import CriteriaSearch.Text.Composition
import CriteriaSearch.Text.Digits
import CriteriaSearch.Text.Percent
import CriteriaSearch.Text.Pieces
import CriteriaSearch.Text.Punycode
import CriteriaSearch.TimeZone.Basic
import CriteriaSearch.TimeZone.Names
import CriteriaSearch.Url.Basic
import CriteriaSearch.Url.Host
import CriteriaSearch.Url.Reading
import CriteriaSearch.Yaml.Basic
import CriteriaSearch.Yaml.Characters
import CriteriaSearch.Yaml.Document
import CriteriaSearch.Yaml.Properties
import CriteriaSearch.Yaml.Scalar
import CriteriaSearch.Yaml.Token
import CriteriaSearch.Proofs.Condition.Verdict
import CriteriaSearch.Proofs.Compilation.Buckets
import CriteriaSearch.Proofs.Compilation.Meaning
import CriteriaSearch.Proofs.Backend.Pages
import CriteriaSearch.Proofs.Streaming.Ledger
import CriteriaSearch.Proofs.Streaming.Invariant
import CriteriaSearch.Proofs.Streaming.Progress
import CriteriaSearch.Proofs.Streaming.Outcome
import CriteriaSearch.Proofs.Backend.Calls
import CriteriaSearch.Proofs.Backend.Rendering
import CriteriaSearch.Proofs.Streaming.Calls
import CriteriaSearch.Proofs.Streaming.Events
import CriteriaSearch.Proofs.Streaming.Protocol
import CriteriaSearch.Proofs.Condition.Leaves
import CriteriaSearch.Proofs.Search.Queries
import CriteriaSearch.Proofs.Condition.Grammar
import CriteriaSearch.Proofs.Condition.Decoding
import CriteriaSearch.Proofs.Condition.Spellings
import CriteriaSearch.Proofs.Condition.Insertions
import CriteriaSearch.Proofs.Condition.Outlines
import CriteriaSearch.Proofs.Condition.Building
import CriteriaSearch.Proofs.Search.Agreement
import CriteriaSearch.Proofs.Search.PageNumbers
import CriteriaSearch.Proofs.Search.Shaping
import CriteriaSearch.Proofs.Search.Windows
import CriteriaSearch.Proofs.Compilation.Clauses
import CriteriaSearch.Proofs.Json.Numerals
import CriteriaSearch.Proofs.Json.Text
import CriteriaSearch.Proofs.Query.Explanation
import CriteriaSearch.Proofs.Compilation.Concatenation
import CriteriaSearch.Proofs.Compilation.Nesting
import CriteriaSearch.Proofs.Compilation.Emptiness
import CriteriaSearch.Proofs.Compilation.Phrases
import CriteriaSearch.Proofs.Compilation.TrailingPlus
import CriteriaSearch.Proofs.Compilation.BlankPhrases
import CriteriaSearch.Proofs.Json.Documents
import CriteriaSearch.Proofs.Json.Outcomes
import CriteriaSearch.Proofs.Json.Records
import CriteriaSearch.Proofs.Condition.Members
import CriteriaSearch.Proofs.Paging.Shapes
import CriteriaSearch.Proofs.Paging.Decoders
import CriteriaSearch.Proofs.Paging.Rewriting
import CriteriaSearch.Proofs.Paging.Zones
import CriteriaSearch.Proofs.Settings.Acceptance
import CriteriaSearch.Proofs.Settings.Variables
import CriteriaSearch.Proofs.Settings.Layers
import CriteriaSearch.Proofs.Settings.Precedence
import CriteriaSearch.Proofs.Yaml.Records
import CriteriaSearch.Proofs.Backend.Rotation
import CriteriaSearch.Proofs.Search.BatchSizes
