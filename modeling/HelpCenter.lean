import HelpCenter.Article.Basic
import HelpCenter.Article.Markdown
import HelpCenter.Article.Plan
import HelpCenter.CodeMap.Basic
import HelpCenter.CodeMap.Merge
import HelpCenter.CodeMap.Record
import HelpCenter.Command.Basic
import HelpCenter.Command.Option
import HelpCenter.Command.Reading
import HelpCenter.Command.Run
import HelpCenter.Dashboard.Address
import HelpCenter.Dashboard.Answer
import HelpCenter.Dashboard.Body
import HelpCenter.Dashboard.Resource
import HelpCenter.Failure
import HelpCenter.Files.Glob
import HelpCenter.Files.Path
import HelpCenter.Files.Tree
import HelpCenter.Generation.Backend
import HelpCenter.Generation.Batch
import HelpCenter.Generation.Host
import HelpCenter.Generation.Offline
import HelpCenter.Generation.Prompt
import HelpCenter.Generation.Protocol
import HelpCenter.Generation.Reply
import HelpCenter.Generation.Service
import HelpCenter.Json.Basic
import HelpCenter.Json.Display
import HelpCenter.Json.Loose
import HelpCenter.Json.Printer
import HelpCenter.Json.Reader
import HelpCenter.Log.Basic
import HelpCenter.Log.Sink
import HelpCenter.Main
import HelpCenter.Number.Basic
import HelpCenter.Number.Binary64
import HelpCenter.Number.Decimal
import HelpCenter.Number.Reading
import HelpCenter.Pattern.Basic
import HelpCenter.Pattern.Matcher
import HelpCenter.Pattern.Reader
import HelpCenter.Proofs.Article.Edit
import HelpCenter.Proofs.Article.Identity
import HelpCenter.Proofs.Article.Plan
import HelpCenter.Proofs.Article.Reading
import HelpCenter.Proofs.Article.Recall
import HelpCenter.Proofs.Article.Record
import HelpCenter.Proofs.Article.RoundTrip
import HelpCenter.Proofs.Article.Settled
import HelpCenter.Proofs.CodeMap.Merge
import HelpCenter.Proofs.CodeMap.Pages
import HelpCenter.Proofs.CodeMap.RoundTrip
import HelpCenter.Proofs.Except
import HelpCenter.Proofs.Files.Braces
import HelpCenter.Proofs.Files.Leads
import HelpCenter.Proofs.Files.Lines
import HelpCenter.Proofs.Files.Proper
import HelpCenter.Proofs.Files.Resolve
import HelpCenter.Proofs.Files.Tree
import HelpCenter.Proofs.Files.Walk
import HelpCenter.Proofs.Generation.Accounting
import HelpCenter.Proofs.Generation.Answer
import HelpCenter.Proofs.Generation.Backend
import HelpCenter.Proofs.Generation.Batch
import HelpCenter.Proofs.Generation.Convergence
import HelpCenter.Proofs.Generation.Draft
import HelpCenter.Proofs.Generation.Identity
import HelpCenter.Proofs.Generation.Isolation
import HelpCenter.Proofs.Generation.Offline
import HelpCenter.Proofs.Generation.Outcome
import HelpCenter.Proofs.Generation.Reply
import HelpCenter.Proofs.Json.Extent
import HelpCenter.Proofs.Json.Fields
import HelpCenter.Proofs.Json.Interruption
import HelpCenter.Proofs.Json.Normal
import HelpCenter.Proofs.Json.RoundTrip
import HelpCenter.Proofs.Json.Strings
import HelpCenter.Proofs.Number.DecimalText
import HelpCenter.Proofs.Number.Digits
import HelpCenter.Proofs.Number.Hexadecimal
import HelpCenter.Proofs.Number.Order
import HelpCenter.Proofs.Number.Rounding
import HelpCenter.Proofs.Number.Shortest
import HelpCenter.Proofs.Pattern.Search
import HelpCenter.Proofs.Pattern.Ways
import HelpCenter.Proofs.Refresh.Agreement
import HelpCenter.Proofs.Refresh.Basic
import HelpCenter.Proofs.Refresh.Briefing
import HelpCenter.Proofs.Refresh.Identity
import HelpCenter.Proofs.Refresh.Invariant
import HelpCenter.Proofs.Refresh.Mirror
import HelpCenter.Proofs.Refresh.Review
import HelpCenter.Proofs.Route.Path
import HelpCenter.Proofs.Scan.Children
import HelpCenter.Proofs.Scan.Discovery
import HelpCenter.Proofs.Scan.Enclosure
import HelpCenter.Proofs.Scan.Evidence
import HelpCenter.Proofs.Scan.Features
import HelpCenter.Proofs.Scan.Literals
import HelpCenter.Proofs.Scan.Project
import HelpCenter.Proofs.Settings.Check
import HelpCenter.Proofs.Settings.Load
import HelpCenter.Proofs.Settings.Reading
import HelpCenter.Proofs.Settings.Starter
import HelpCenter.Proofs.Settings.StarterText
import HelpCenter.Proofs.Store.Articles
import HelpCenter.Proofs.Store.Documents
import HelpCenter.Proofs.Store.Frame
import HelpCenter.Proofs.Store.Gaps
import HelpCenter.Proofs.Store.Invariant
import HelpCenter.Proofs.Store.Ledger
import HelpCenter.Proofs.Store.Load
import HelpCenter.Proofs.Store.Mirror
import HelpCenter.Proofs.Store.Mutation
import HelpCenter.Proofs.Store.Placement
import HelpCenter.Proofs.Store.Questions
import HelpCenter.Proofs.Store.Recall
import HelpCenter.Proofs.Store.Refusal
import HelpCenter.Proofs.Store.Removal
import HelpCenter.Proofs.Store.RoundTrip
import HelpCenter.Proofs.Syntax.Escape
import HelpCenter.Proofs.Syntax.Order
import HelpCenter.Proofs.Syntax.StringValue
import HelpCenter.Proofs.Syntax.Walk
import HelpCenter.Proofs.Text.Case
import HelpCenter.Proofs.Text.Encoding
import HelpCenter.Proofs.Text.Plain
import HelpCenter.Proofs.Text.Search
import HelpCenter.Proofs.Text.Trim
import HelpCenter.Proofs.Text.Utf16
import HelpCenter.Proofs.Topic.Catalog
import HelpCenter.Proofs.Topic.Detection
import HelpCenter.Proofs.Workspace.Action
import HelpCenter.Proofs.Workspace.Files
import HelpCenter.Proofs.Workspace.Prompts
import HelpCenter.Proofs.Yaml.Block
import HelpCenter.Proofs.Yaml.Offset
import HelpCenter.Proofs.Yaml.Quoted
import HelpCenter.Proofs.Yaml.Quotes
import HelpCenter.Proofs.Yaml.Token
import HelpCenter.Refresh.Article
import HelpCenter.Refresh.Basic
import HelpCenter.Route.Path
import HelpCenter.Scan.Component
import HelpCenter.Scan.Discovery
import HelpCenter.Scan.Findings
import HelpCenter.Scan.Framework
import HelpCenter.Scan.Project
import HelpCenter.Scan.Route
import HelpCenter.Scan.UiText
import HelpCenter.Settings.Basic
import HelpCenter.Settings.Check
import HelpCenter.Settings.Files
import HelpCenter.Settings.Key
import HelpCenter.Settings.Reading
import HelpCenter.Settings.Starter
import HelpCenter.Source.Name
import HelpCenter.Source.Unit
import HelpCenter.Store.Articles
import HelpCenter.Store.Basic
import HelpCenter.Store.Gaps
import HelpCenter.Syntax.Cursor
import HelpCenter.Syntax.Definition
import HelpCenter.Syntax.Escape
import HelpCenter.Syntax.Expression
import HelpCenter.Syntax.Literal
import HelpCenter.Syntax.Markup
import HelpCenter.Syntax.Node
import HelpCenter.Syntax.Program
import HelpCenter.Syntax.Rules
import HelpCenter.Syntax.Statement
import HelpCenter.Syntax.StringValue
import HelpCenter.Syntax.TypeNotation
import HelpCenter.Text.Basic
import HelpCenter.Text.Blank
import HelpCenter.Text.Case
import HelpCenter.Text.CaseTable
import HelpCenter.Text.Printable
import HelpCenter.Text.RangeTable
import HelpCenter.Text.Reference
import HelpCenter.Text.ReferenceTable
import HelpCenter.Text.Search
import HelpCenter.Text.Utf16
import HelpCenter.Text.Utf8
import HelpCenter.Text.Word
import HelpCenter.Time.Moment
import HelpCenter.Topic.Basic
import HelpCenter.Topic.Builtin
import HelpCenter.Topic.Detection
import HelpCenter.Wording.Basic
import HelpCenter.Workspace.Basic
import HelpCenter.Yaml.Cursor
import HelpCenter.Yaml.Kind
import HelpCenter.Yaml.Node
import HelpCenter.Yaml.Printer
import HelpCenter.Yaml.Scalar
import HelpCenter.Yaml.Style
import HelpCenter.Yaml.Token
import HelpCenter.Yaml.Value
