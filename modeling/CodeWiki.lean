import CodeWiki.Checkout.Basic
import CodeWiki.Checkout.Eligible
import CodeWiki.Checkout.Error
import CodeWiki.Checkout.Git
import CodeWiki.Checkout.Scratch
import CodeWiki.CommandLine.Grammar
import CodeWiki.CommandLine.Run
import CodeWiki.Completion.Client
import CodeWiki.Completion.Error
import CodeWiki.Credential
import CodeWiki.Document.Basic
import CodeWiki.Document.Json
import CodeWiki.Excerpt.Basic
import CodeWiki.Excerpt.Comment
import CodeWiki.Excerpt.Density
import CodeWiki.Excerpt.Language
import CodeWiki.Excerpt.Scan
import CodeWiki.Excerpt.Signature
import CodeWiki.FileTree.Basic
import CodeWiki.FileTree.Listing
import CodeWiki.FileTree.Path
import CodeWiki.Generation
import CodeWiki.Generation.Interleaving
import CodeWiki.Json.Basic
import CodeWiki.Json.Number
import CodeWiki.Json.Printer
import CodeWiki.Json.Reader
import CodeWiki.Json.Record
import CodeWiki.Main
import CodeWiki.Number.Decimal
import CodeWiki.Number.Floating
import CodeWiki.Number.Radix
import CodeWiki.Number.Shortest
import CodeWiki.Number.Style
import CodeWiki.Proofs.Checkout
import CodeWiki.Proofs.Checkout.Git
import CodeWiki.Proofs.Checkout.Removal
import CodeWiki.Proofs.CommandLine.Run
import CodeWiki.Proofs.Credential
import CodeWiki.Proofs.Document
import CodeWiki.Proofs.Excerpt.Comment
import CodeWiki.Proofs.Excerpt.Density
import CodeWiki.Proofs.Excerpt.Order
import CodeWiki.Proofs.Excerpt.Passes
import CodeWiki.Proofs.Excerpt.Scan
import CodeWiki.Proofs.Excerpt.Separator
import CodeWiki.Proofs.Excerpt.Signature
import CodeWiki.Proofs.FileTree.Key
import CodeWiki.Proofs.FileTree.Listing
import CodeWiki.Proofs.Generation
import CodeWiki.Proofs.Generation.History
import CodeWiki.Proofs.Generation.Key
import CodeWiki.Proofs.Generation.Paths
import CodeWiki.Proofs.Generation.Retained
import CodeWiki.Proofs.Generation.SameUrl
import CodeWiki.Proofs.Generation.Secret
import CodeWiki.Proofs.Generation.Uninterrupted
import CodeWiki.Proofs.Json.Record
import CodeWiki.Proofs.Json.RoundTrip
import CodeWiki.Proofs.Json.Scalar
import CodeWiki.Proofs.Lookup
import CodeWiki.Proofs.Ranking
import CodeWiki.Proofs.Reference
import CodeWiki.Proofs.Reference.Canonical
import CodeWiki.Proofs.Reference.CloneUrl
import CodeWiki.Proofs.Reference.Host
import CodeWiki.Proofs.Reference.Page
import CodeWiki.Proofs.Reference.Spelling
import CodeWiki.Proofs.Retention
import CodeWiki.Proofs.Retention.Recency
import CodeWiki.Proofs.Schedule.Agreement
import CodeWiki.Proofs.Schedule.Backoff
import CodeWiki.Proofs.Schedule.Clock
import CodeWiki.Proofs.Schedule.EveryOrder
import CodeWiki.Proofs.Schedule.Permit
import CodeWiki.Proofs.Schedule.Progress
import CodeWiki.Proofs.Schedule.Refinement
import CodeWiki.Proofs.Schedule.Retry
import CodeWiki.Proofs.Schedule.Secret
import CodeWiki.Proofs.Schedule.Shadow
import CodeWiki.Proofs.Schedule.Throttling
import CodeWiki.Proofs.Section.Conservation
import CodeWiki.Proofs.Section.Distinct
import CodeWiki.Proofs.Section.Draft
import CodeWiki.Proofs.Section.Failure
import CodeWiki.Proofs.Section.Identifier
import CodeWiki.Proofs.Section.Lines
import CodeWiki.Proofs.Section.ModuleId
import CodeWiki.Proofs.Section.NormalForm
import CodeWiki.Proofs.Section.Paragraph
import CodeWiki.Proofs.Section.Reply
import CodeWiki.Proofs.Section.Run
import CodeWiki.Proofs.Section.Slug
import CodeWiki.Proofs.Section.WellFormed
import CodeWiki.Proofs.Settings.Environment
import CodeWiki.Proofs.Settings.File
import CodeWiki.Proofs.Settings.Order
import CodeWiki.Proofs.Snapshot
import CodeWiki.Proofs.SourceModule.Beside
import CodeWiki.Proofs.SourceModule.Brief
import CodeWiki.Proofs.SourceModule.Grouping
import CodeWiki.Proofs.SourceModule.Partition
import CodeWiki.Proofs.SourceModule.Place
import CodeWiki.Proofs.Text.Cut
import CodeWiki.Proofs.Text.LetterCase
import CodeWiki.Proofs.Text.Pattern
import CodeWiki.Proofs.Text.Rows
import CodeWiki.Proofs.Text.Trim
import CodeWiki.Proofs.Text.Utf8
import CodeWiki.Proofs.Text.Visible
import CodeWiki.Proofs.Unicode
import CodeWiki.Proofs.Unicode.Lower
import CodeWiki.Proofs.Yaml.Blank
import CodeWiki.Proofs.Yaml.Record
import CodeWiki.Reference
import CodeWiki.Retention
import CodeWiki.Retention.History
import CodeWiki.Schedule.Basic
import CodeWiki.Schedule.Interleaving
import CodeWiki.Schedule.Prompt
import CodeWiki.Schedule.Run
import CodeWiki.Schedule.Transport
import CodeWiki.Section.Basic
import CodeWiki.Section.Draft
import CodeWiki.Section.Identifier
import CodeWiki.Section.Paragraph
import CodeWiki.Section.Reply
import CodeWiki.Settings.Basic
import CodeWiki.Settings.Environment
import CodeWiki.Settings.File
import CodeWiki.Settings.Given
import CodeWiki.Snapshot
import CodeWiki.SourceModule.Brief
import CodeWiki.SourceModule.Partition
import CodeWiki.SourceModule.Topic
import CodeWiki.Text.Basic
import CodeWiki.Text.LetterCase
import CodeWiki.Text.Pattern
import CodeWiki.Text.Quoted
import CodeWiki.Text.Utf8
import CodeWiki.Unicode.Alphabetic
import CodeWiki.Unicode.CaseMapping
import CodeWiki.Unicode.Cased
import CodeWiki.Unicode.Class
import CodeWiki.Unicode.GraphemeExtend
import CodeWiki.Unicode.Mark
import CodeWiki.Unicode.Number
import CodeWiki.Unicode.Unprintable
import CodeWiki.Yaml.Node
import CodeWiki.Yaml.Node.Reader
import CodeWiki.Yaml.Property
import CodeWiki.Yaml.Record
import CodeWiki.Yaml.Scalar.Block
import CodeWiki.Yaml.Scalar.Flow
import CodeWiki.Yaml.Scalar.Number
import CodeWiki.Yaml.Source
import CodeWiki.Yaml.Token
import CodeWiki.Yaml.Token.Reader
