import TreeBundle.FileSystem.Edit
import TreeBundle.Json.Parser
import TreeBundle.Main
import TreeBundle.Proofs.Path.NormalForm
import TreeBundle.Proofs.Path.Stack
import TreeBundle.Proofs.Path.Composition
import TreeBundle.Proofs.Path.OnDisk
import TreeBundle.Proofs.Text.Utf8
import TreeBundle.Proofs.Text.Lossy
import TreeBundle.Proofs.FileSystem.Content
import TreeBundle.Proofs.FileSystem.Follow
import TreeBundle.Proofs.FileSystem.Locate
import TreeBundle.Proofs.FileSystem.Listing
import TreeBundle.Proofs.Pack.Choice
import TreeBundle.Proofs.Pack.Acts
import TreeBundle.Proofs.Pack.Script
import TreeBundle.Proofs.Pack.Passes
import TreeBundle.Proofs.Decide.Descent
import TreeBundle.Proofs.Decide.Prune
import TreeBundle.Proofs.Decide.Extension
import TreeBundle.Proofs.Decide.Precedence
import TreeBundle.Proofs.Decide.Shebang
import TreeBundle.Proofs.Pack.Selection
import TreeBundle.Proofs.Pack.Contents
import TreeBundle.Proofs.Explain.FirstPass
import TreeBundle.Proofs.Explain.Agreement
import TreeBundle.Proofs.Explain.Promise
import TreeBundle.Proofs.FileSystem.Entry
import TreeBundle.Proofs.Pack.Emitted
import TreeBundle.Proofs.FileSystem.LinkBound
import TreeBundle.Proofs.Walk.Outcome
import TreeBundle.Proofs.Walk.Ends
import TreeBundle.Proofs.Walk.PreOrder
import TreeBundle.Proofs.Walk.Visits
import TreeBundle.Proofs.FileSystem.Created
import TreeBundle.Proofs.FileSystem.Canonical
import TreeBundle.Proofs.Pack.Invariant
import TreeBundle.Proofs.Pack.SelfInclusion
import TreeBundle.Proofs.FileSystem.Shape
import TreeBundle.Proofs.Toml.Entries
import TreeBundle.Proofs.Toml.Keys
import TreeBundle.Proofs.Rules.Entries
import TreeBundle.Proofs.Rules.Document
import TreeBundle.Proofs.Rules.Discovery
import TreeBundle.Proofs.Pattern.Brackets
import TreeBundle.Proofs.Pattern.Matching
import TreeBundle.Proofs.Pattern.Parts
import TreeBundle.Proofs.Pattern.Wrap
import TreeBundle.Proofs.Rules.Patterns
import TreeBundle.Proofs.Pack.Cutoff
import TreeBundle.Proofs.Pack.Roots
import TreeBundle.Proofs.Pack.Accounts
import TreeBundle.Proofs.Rules.Stricter
import TreeBundle.Proofs.Pack.Stricter
import TreeBundle.Proofs.Pack.Hidden
import TreeBundle.Proofs.FileSystem.Alike
import TreeBundle.Proofs.FileSystem.Working
import TreeBundle.Proofs.Pack.Simulation
import TreeBundle.Proofs.Pack.Diagnostics
import TreeBundle.Proofs.FileSystem.Reordered
import TreeBundle.Proofs.Pack.Enumeration
import TreeBundle.Proofs.FileSystem.Appended
import TreeBundle.Proofs.FileSystem.Changed
import TreeBundle.Proofs.Pack.Buffered
import TreeBundle.Proofs.Pack.Again
import TreeBundle.Proofs.Pack.Lossless
import TreeBundle.Proofs.CommandLine.Effects
import TreeBundle.Proofs.FileSystem.Partition
import TreeBundle.Proofs.Path.Prefix
import TreeBundle.Proofs.Explain.Absolute
import TreeBundle.Proofs.Json.RoundTrip
import TreeBundle.Proofs.Data.Records
import TreeBundle.Proofs.CommandLine.Output
import TreeBundle.Proofs.Rules.Compiled
import TreeBundle.Proofs.Pack.Respelled
