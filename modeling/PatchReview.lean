import PatchReview.CommandLine.Command
import PatchReview.CommandLine.Options
import PatchReview.CommandLine.Review
import PatchReview.CommandLine.Run
import PatchReview.CommandLine.Setup
import PatchReview.CommandLine.Show
import PatchReview.Config.Basic
import PatchReview.Config.Location
import PatchReview.Config.Reader
import PatchReview.Config.Template
import PatchReview.Detector.Custom
import PatchReview.Detector.Dangerous
import PatchReview.Detector.Guidelines
import PatchReview.Detector.Issue
import PatchReview.Detector.Secrets
import PatchReview.Detector.Selection
import PatchReview.Finding.Basic
import PatchReview.Finding.Category
import PatchReview.Glob
import PatchReview.Host.Basic
import PatchReview.Host.FileTree
import PatchReview.Host.Git
import PatchReview.Intent.Change
import PatchReview.Intent.File
import PatchReview.Intent.Function
import PatchReview.Intent.Strictness
import PatchReview.Intent.Summary
import PatchReview.Json
import PatchReview.Language
import PatchReview.Log
import PatchReview.Main
import PatchReview.Number.Binary64
import PatchReview.Number.Reading
import PatchReview.Number.Rounding
import PatchReview.Number.Shortest
import PatchReview.Patch.Basic
import PatchReview.Patch.Reader
import PatchReview.Patch.Selection
import PatchReview.Path
import PatchReview.Pattern.Reader
import PatchReview.Pattern.Search
import PatchReview.Pattern.Syntax
import PatchReview.Proofs.Patch.Written
import PatchReview.Proofs.Text.Case
import PatchReview.Proofs.Text.Lines
import PatchReview.Report.Data
import PatchReview.Report.Style
import PatchReview.Report.Text
import PatchReview.Report.Time
import PatchReview.Review.File
import PatchReview.Review.Limits
import PatchReview.Review.PullRequest
import PatchReview.Review.Run
import PatchReview.Review.Summary
import PatchReview.Rule.Basic
import PatchReview.Rule.Document
import PatchReview.Rule.Location
import PatchReview.Rule.Set
import PatchReview.Score.Accuracy
import PatchReview.Score.Confidence
import PatchReview.Text.Basic
import PatchReview.Text.Blank
import PatchReview.Text.Case
import PatchReview.Text.CaseTable
import PatchReview.Text.Caseless
import PatchReview.Text.Digit
import PatchReview.Text.Lines
import PatchReview.Text.Printable
import PatchReview.Text.Quoted
import PatchReview.Text.Range
import PatchReview.Text.Word
import PatchReview.Text.WordStart
import PatchReview.Toml.Blank
import PatchReview.Toml.Reader
import PatchReview.Toml.Scalar
import PatchReview.Toml.Table
import PatchReview.Toml.Text
import PatchReview.Value
import PatchReview.Proofs.Patch.Header
import PatchReview.Proofs.Patch.Reading
import PatchReview.Proofs.Patch.RoundTrip
import PatchReview.Proofs.Review.Additive
import PatchReview.Proofs.Review.Collect
import PatchReview.Proofs.Review.Pool
import PatchReview.Proofs.Score.Tally
import PatchReview.Proofs.Detector.Secrets
import PatchReview.Proofs.Review.Credentials
import PatchReview.Proofs.Review.Session
import PatchReview.Proofs.Review.Shares
import PatchReview.Proofs.Number.Rounding
import PatchReview.Proofs.Score.Feedback
import PatchReview.Proofs.Review.Feedback
import PatchReview.Proofs.CommandLine.Course
import PatchReview.Proofs.Rule.Buckets
import PatchReview.Proofs.Rule.Document
import PatchReview.Proofs.Review.Unchanged
import PatchReview.Proofs.CommandLine.Findings
import PatchReview.Proofs.CommandLine.Scope
import PatchReview.Proofs.CommandLine.Inputs
import PatchReview.Proofs.CommandLine.Unchanged
import PatchReview.Proofs.Rule.Joined
import PatchReview.Proofs.Rule.Merged
import PatchReview.Proofs.Distinct
import PatchReview.Proofs.Finding.Order
import PatchReview.Proofs.Config.Fields
import PatchReview.Proofs.Config.FixedPoint
import PatchReview.Proofs.Finding.Stats
import PatchReview.Proofs.Review.Summary
import PatchReview.Proofs.Review.Coherence
import PatchReview.Proofs.Detector.Builtin
import PatchReview.Proofs.Score.Bands
import PatchReview.Proofs.Review.Bands
import PatchReview.Proofs.Patch.NewFile
import PatchReview.Proofs.Review.NewFile
import PatchReview.Proofs.Number.Range
import PatchReview.Proofs.Config.Errors
import PatchReview.Proofs.Config.Soundness
import PatchReview.Proofs.Patch.Joined
import PatchReview.Proofs.Text.Letters
import PatchReview.Proofs.Text.Caseless
import PatchReview.Proofs.Intent.Spelling
import PatchReview.Proofs.Review.Spelling
import PatchReview.Proofs.Intent.Title
import PatchReview.Proofs.Review.PullRequest
import PatchReview.Proofs.Detector.Choice
import PatchReview.Proofs.CommandLine.Paths
import PatchReview.Proofs.Host.Loading
import PatchReview.Proofs.CommandLine.Failure
import PatchReview.Proofs.Patch.Role
import PatchReview.Proofs.Patch.HunkHead
import PatchReview.Proofs.Patch.Numbering
import PatchReview.Proofs.Patch.Room
import PatchReview.Proofs.Patch.Wording
import PatchReview.Proofs.Patch.Change
import PatchReview.Proofs.Patch.Recognition
import PatchReview.Proofs.Text.Parts
import PatchReview.Proofs.Detector.Reach
import PatchReview.Proofs.Text.Sigma
import PatchReview.Proofs.Detector.Keyword
import PatchReview.Proofs.Detector.Markup
import PatchReview.Proofs.Intent.Declaration
import PatchReview.Proofs.Intent.Labels
import PatchReview.Proofs.Number.Exact
import PatchReview.Proofs.Score.Sum
import PatchReview.Proofs.Review.Average
import PatchReview.Proofs.Report.Layout
import PatchReview.Proofs.Report.Colour
import PatchReview.Proofs.Report.Threshold
import PatchReview.Proofs.CommandLine.Threshold
import PatchReview.Proofs.Text.Join
import PatchReview.Proofs.Rule.Grouping
import PatchReview.Proofs.Text.Margin
import PatchReview.Proofs.Rule.Keywords
