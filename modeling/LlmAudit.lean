import LlmAudit.Audit
import LlmAudit.Baseline.Diff
import LlmAudit.Command.Run
import LlmAudit.Dependency.Guard
import LlmAudit.Discovery
import LlmAudit.Explanation
import LlmAudit.Json.Reader
import LlmAudit.Json.Writer
import LlmAudit.Main
import LlmAudit.PromptRisk.Basic
import LlmAudit.Record.Report
import LlmAudit.Report.Export
import LlmAudit.Report.Markdown
import LlmAudit.Report.Page
import LlmAudit.Settings
import LlmAudit.Syntax.Describe
import LlmAudit.Syntax.OutlineFile
import LlmAudit.Yaml.Value
import LlmAudit.Proofs.Suppression.Basic
import LlmAudit.Proofs.Suppression.Insertion
import LlmAudit.Proofs.Command.Exec
import LlmAudit.Proofs.Suppression.Matching
import LlmAudit.Proofs.Files.Writing
import LlmAudit.Proofs.Baseline.Saving
import LlmAudit.Proofs.Command.FailedScan
import LlmAudit.Proofs.Number.Rounding
import LlmAudit.Proofs.Number.Shortest
import LlmAudit.Proofs.Json.Number
import LlmAudit.Proofs.Json.Text
import LlmAudit.Proofs.Text.Utf8
import LlmAudit.Proofs.Json.RoundTrip
import LlmAudit.Proofs.Json.Ascii
import LlmAudit.Proofs.Baseline.Document
import LlmAudit.Proofs.Baseline.Rerun
import LlmAudit.Proofs.Finding.Sorting
import LlmAudit.Proofs.Finding.Dedupe
import LlmAudit.Proofs.Suppression.Lanes
import LlmAudit.Proofs.Check.Reports
import LlmAudit.Proofs.Audit.Independence
import LlmAudit.Proofs.Number.Sum
import LlmAudit.Proofs.Baseline.Rescan
import LlmAudit.Proofs.Baseline.RoundTrip
import LlmAudit.Proofs.Suppression.Soundness
import LlmAudit.Proofs.Baseline.Recognition
import LlmAudit.Proofs.Audit.LineNumbers
import LlmAudit.Proofs.Audit.Twins
import LlmAudit.Proofs.Command.Presentation
import LlmAudit.Proofs.Json.Grammar
import LlmAudit.Proofs.Json.Lexeme
import LlmAudit.Proofs.Json.Reading
import LlmAudit.Proofs.Record.Decoding
import LlmAudit.Proofs.Baseline.Existing
import LlmAudit.Proofs.Json.Canonical
import LlmAudit.Proofs.Suppression.Monotone
import LlmAudit.Proofs.Syntax.Preorder
import LlmAudit.Proofs.Taint.Chains
import LlmAudit.Proofs.Text.Case
import LlmAudit.Proofs.Taint.RequestAccess
import LlmAudit.Proofs.Check.Prompts
import LlmAudit.Proofs.Audit.Injections
import LlmAudit.Proofs.Dependency.Edits
import LlmAudit.Proofs.Syntax.Positions
import LlmAudit.Proofs.Audit.EarlyCalls
import LlmAudit.Proofs.Taint.Scopes
import LlmAudit.Proofs.Text.Slices
import LlmAudit.Proofs.Syntax.Spans
import LlmAudit.Proofs.Check.Logging
import LlmAudit.Proofs.Dependency.Lookalikes
import LlmAudit.Proofs.Finding.Stages
import LlmAudit.Proofs.Text.Stripping
import LlmAudit.Proofs.PromptRisk.Growth
import LlmAudit.Proofs.Directive.Grammar
import LlmAudit.Proofs.Lists.Firsts
import LlmAudit.Proofs.Files.Texts
import LlmAudit.Proofs.Dependency.Packages
import LlmAudit.Proofs.Dependency.Manifests
import LlmAudit.Proofs.Dependency.Outages
import LlmAudit.Proofs.Report.Grouping
import LlmAudit.Proofs.Report.Top
import LlmAudit.Proofs.Terminal.Plain
import LlmAudit.Proofs.Terminal.Printing
import LlmAudit.Proofs.Report.Summary
import LlmAudit.Proofs.Discovery.Patterns
import LlmAudit.Proofs.Settings.Loading
import LlmAudit.Proofs.Syntax.Traversal
import LlmAudit.Proofs.Finding.Keys
import LlmAudit.Proofs.Report.Snippets
import LlmAudit.Proofs.Text.Loose
import LlmAudit.Proofs.Terminal.Emoji
import LlmAudit.Proofs.Terminal.Pages
import LlmAudit.Proofs.Report.Note
