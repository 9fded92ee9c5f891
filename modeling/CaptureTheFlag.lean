import CaptureTheFlag.Failure
import CaptureTheFlag.Grader.Basic
import CaptureTheFlag.Grader.Definition
import CaptureTheFlag.Grader.Registry
import CaptureTheFlag.Http.Address
import CaptureTheFlag.Http.Api
import CaptureTheFlag.Http.MediaType
import CaptureTheFlag.Http.Percent
import CaptureTheFlag.Http.Request
import CaptureTheFlag.Http.Route
import CaptureTheFlag.Json.Decoder
import CaptureTheFlag.Json.Number
import CaptureTheFlag.Json.Printer
import CaptureTheFlag.Json.Token
import CaptureTheFlag.Json.Tree
import CaptureTheFlag.Json.Value
import CaptureTheFlag.KeyMap
import CaptureTheFlag.Problem.Basic
import CaptureTheFlag.Problem.Condition
import CaptureTheFlag.Problem.Draft
import CaptureTheFlag.Problem.Lifecycle
import CaptureTheFlag.Problem.Schema
import CaptureTheFlag.Proofs.Http.Commit
import CaptureTheFlag.Proofs.Program.Calls
import CaptureTheFlag.Proofs.Program.Commit
import CaptureTheFlag.Proofs.Service.Commit
import CaptureTheFlag.Proofs.Service.Operation
import CaptureTheFlag.Proofs.Service.World
import CaptureTheFlag.Proofs.Store.Reachable
import CaptureTheFlag.Proofs.Submission.Uniqueness
import CaptureTheFlag.Proofs.Team.Isolation
import CaptureTheFlag.Proofs.Team.Progress
import CaptureTheFlag.Regex.Automaton.Part
import CaptureTheFlag.Regex.Automaton.SetStates
import CaptureTheFlag.Regex.Automaton.Size
import CaptureTheFlag.Regex.Automaton.Tally
import CaptureTheFlag.Regex.Automaton.WordTree
import CaptureTheFlag.Regex.Bracket
import CaptureTheFlag.Regex.CharClass
import CaptureTheFlag.Regex.Compile
import CaptureTheFlag.Regex.Escape
import CaptureTheFlag.Regex.Expr
import CaptureTheFlag.Regex.Meaning
import CaptureTheFlag.Regex.Pattern
import CaptureTheFlag.Regex.Places
import CaptureTheFlag.Regex.Reachability
import CaptureTheFlag.Regex.Search
import CaptureTheFlag.Regex.Simplification
import CaptureTheFlag.Regex.Syntax
import CaptureTheFlag.Regex.Term
import CaptureTheFlag.Regex.Token
import CaptureTheFlag.Settings
import CaptureTheFlag.Sha256
import CaptureTheFlag.Store.Basic
import CaptureTheFlag.Store.Faults
import CaptureTheFlag.Store.Program
import CaptureTheFlag.Submission.Basic
import CaptureTheFlag.Submission.Filter
import CaptureTheFlag.Submission.Pipeline
import CaptureTheFlag.Submission.Regrade
import CaptureTheFlag.Submission.Upkeep
import CaptureTheFlag.Team.Progress
import CaptureTheFlag.Team.User
import CaptureTheFlag.Text.Blank
import CaptureTheFlag.Text.Hex
import CaptureTheFlag.Text.Utf8
import CaptureTheFlag.TextSet
import CaptureTheFlag.Unicode.Age
import CaptureTheFlag.Unicode.Break
import CaptureTheFlag.Unicode.CaseFolding
import CaptureTheFlag.Unicode.Category
import CaptureTheFlag.Unicode.CharSet
import CaptureTheFlag.Unicode.Octets
import CaptureTheFlag.Unicode.Property
import CaptureTheFlag.Unicode.Ranges
import CaptureTheFlag.Unicode.Script
import CaptureTheFlag.Proofs.Submission.Gates
import CaptureTheFlag.Proofs.Submission.Regrading
import CaptureTheFlag.Proofs.Problem.Draft
import CaptureTheFlag.Proofs.Problem.Lifecycle
import CaptureTheFlag.Proofs.Problem.Proper
import CaptureTheFlag.Proofs.Grader.Registry
import CaptureTheFlag.Proofs.Submission.Steadiness
import CaptureTheFlag.Proofs.Problem.Unlock
import CaptureTheFlag.Proofs.Team.Growth
import CaptureTheFlag.Proofs.Program.Reads
import CaptureTheFlag.Proofs.Service.Interleaving
import CaptureTheFlag.Proofs.Submission.Credit
import CaptureTheFlag.Proofs.Team.Visibility
import CaptureTheFlag.Proofs.Submission.Contention
import CaptureTheFlag.Proofs.Service.History
import CaptureTheFlag.Proofs.Program.Ways
import CaptureTheFlag.Proofs.Submission.Rivals
import CaptureTheFlag.Proofs.Problem.Document
import CaptureTheFlag.Proofs.Problem.TwoUpdates
import CaptureTheFlag.Proofs.Problem.Naming
import CaptureTheFlag.Proofs.Team.Resolution
import CaptureTheFlag.Proofs.Service.Frame
import CaptureTheFlag.Proofs.Problem.Graded
import CaptureTheFlag.Proofs.Problem.ReadBack
import CaptureTheFlag.Proofs.Team.Locality
import CaptureTheFlag.Proofs.Program.Discretion
import CaptureTheFlag.Proofs.Service.Discretion
import CaptureTheFlag.Proofs.Http.Cover
import CaptureTheFlag.Proofs.Text.Blank
import CaptureTheFlag.Proofs.Problem.Schema
import CaptureTheFlag.Proofs.Problem.Rules
import CaptureTheFlag.Proofs.Problem.Insertion
import CaptureTheFlag.Proofs.Problem.Updates
import CaptureTheFlag.Proofs.Json.ReadBack
import CaptureTheFlag.Proofs.Program.Failures
import CaptureTheFlag.Proofs.Http.Key
import CaptureTheFlag.Proofs.Problem.RoundTrip
import CaptureTheFlag.Proofs.Problem.Import
import CaptureTheFlag.Proofs.Store.Listing
import CaptureTheFlag.Proofs.Submission.Selection
import CaptureTheFlag.Proofs.Team.Listing
import CaptureTheFlag.Proofs.Problem.Integrity
import CaptureTheFlag.Proofs.Submission.Preview
import CaptureTheFlag.Proofs.Grader.DeclaredFlag
import CaptureTheFlag.Proofs.Regex.Reading
import CaptureTheFlag.Proofs.Regex.Cutting
import CaptureTheFlag.Proofs.Regex.Enclosing
import CaptureTheFlag.Proofs.Grader.WholeMatch
import CaptureTheFlag.Proofs.Text.Hex
import CaptureTheFlag.Proofs.Grader.Digest
import CaptureTheFlag.Proofs.Grader.Construction
