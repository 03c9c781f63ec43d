import PullTriage.Affiliation
import PullTriage.Category
import PullTriage.Classification
import PullTriage.Cli.Options
import PullTriage.Cli.Program
import PullTriage.Config.Basic
import PullTriage.Config.Entries
import PullTriage.Config.Environment
import PullTriage.Config.Error
import PullTriage.Config.Files
import PullTriage.Config.Kind
import PullTriage.Config.Literal
import PullTriage.Config.Resolve
import PullTriage.Config.Setup
import PullTriage.Config.Typed
import PullTriage.Decimal.Binary64
import PullTriage.Decimal.Reading
import PullTriage.Decimal.Shortest
import PullTriage.Dictionary
import PullTriage.Failure
import PullTriage.Gh.Answer
import PullTriage.Gh.Client
import PullTriage.Gh.Log
import PullTriage.Gh.Overlap
import PullTriage.Gh.Reply
import PullTriage.Gh.Routes
import PullTriage.Gh.Session
import PullTriage.GitHub.Basic
import PullTriage.GitHub.Memory
import PullTriage.Identity.Basic
import PullTriage.Identity.Record
import PullTriage.Instant.Basic
import PullTriage.Instant.Calendar
import PullTriage.Instant.Printer
import PullTriage.Instant.Reader
import PullTriage.Instant.Window
import PullTriage.Json.Basic
import PullTriage.Json.Printer
import PullTriage.Json.Reader
import PullTriage.Json.Record
import PullTriage.Json.Tree
import PullTriage.Main
import PullTriage.OrderedSet
import PullTriage.Plan
import PullTriage.Proofs.Answers
import PullTriage.Proofs.Dictionaries
import PullTriage.Proofs.FirstErrors
import PullTriage.Proofs.Labels
import PullTriage.Proofs.Loading
import PullTriage.Proofs.Pool
import PullTriage.Proofs.Summaries
import PullTriage.Pull.Basic
import PullTriage.Pull.Record
import PullTriage.Run.Basic
import PullTriage.Run.Outcome
import PullTriage.Run.Rules
import PullTriage.Run.Summary
import PullTriage.TeamRules
import PullTriage.Text.Blank
import PullTriage.Text.Hidden
import PullTriage.Text.Lowercase
import PullTriage.Text.Lowercase.Table
import PullTriage.Text.Quoted
import PullTriage.Text.Search
import PullTriage.Text.Utf8
import PullTriage.TypeLabel
import PullTriage.Proofs.Visits
import PullTriage.Proofs.Histories
import PullTriage.Proofs.Isolation
import PullTriage.Proofs.Preview
import PullTriage.Proofs.Workers
import PullTriage.Proofs.Layers
import PullTriage.Proofs.Demands
import PullTriage.Proofs.Resolution
import PullTriage.Proofs.Bytes
import PullTriage.Proofs.Calendars
import PullTriage.Proofs.Spellings
import PullTriage.Proofs.Sources
import PullTriage.Proofs.ExactReading
import PullTriage.Proofs.Stamps
import PullTriage.Proofs.Renderings
import PullTriage.Proofs.Commands
import PullTriage.Proofs.Mirrors
import PullTriage.Proofs.Printing
import PullTriage.Proofs.Initialization
import PullTriage.Proofs.Phrases
import PullTriage.Proofs.Attempts
import PullTriage.Proofs.Readback
import PullTriage.Proofs.Overrides
import PullTriage.Proofs.Watching
import PullTriage.Proofs.Reports
import PullTriage.Proofs.Singles
import PullTriage.Proofs.Calls
import PullTriage.Proofs.TypeLabels
import PullTriage.Proofs.EmptyOverrides
import PullTriage.Proofs.Quiet
import PullTriage.Proofs.Fetching
import PullTriage.Proofs.Endings
import PullTriage.Proofs.Fields
import PullTriage.Proofs.Pages
import PullTriage.Proofs.Records
import PullTriage.Proofs.FileEntries
import PullTriage.Proofs.Trimming
import PullTriage.Proofs.Patterns
import PullTriage.Proofs.TeamNames
import PullTriage.Proofs.AddSets
import PullTriage.Proofs.WordContexts
import PullTriage.Proofs.Domains
import PullTriage.Proofs.ConfiguredEntries
import PullTriage.Proofs.Recency
import PullTriage.Proofs.Merging
import PullTriage.Proofs.Remembered
import PullTriage.Proofs.FileValues
import PullTriage.Proofs.Mismatches
