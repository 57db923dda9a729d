import SandboxLisp.Editor
import SandboxLisp.Primitive.Host
import SandboxLisp.Proofs.Editing.History
import SandboxLisp.Proofs.Editing.Words
import SandboxLisp.Proofs.Evaluation.CallPaths
import SandboxLisp.Proofs.Evaluation.DepthLimit
import SandboxLisp.Proofs.Evaluation.Dialogue
import SandboxLisp.Proofs.Evaluation.Failures
import SandboxLisp.Proofs.Evaluation.Frame
import SandboxLisp.Proofs.Evaluation.Hiding
import SandboxLisp.Proofs.Evaluation.LocalNames
import SandboxLisp.Proofs.Evaluation.Snapshot
import SandboxLisp.Proofs.Evaluation.Visits
import SandboxLisp.Proofs.Reading.Agreement
import SandboxLisp.Proofs.Reading.Appending
import SandboxLisp.Proofs.Reading.Diagnostics
import SandboxLisp.Proofs.Reading.Entries
import SandboxLisp.Proofs.Reading.Forest
import SandboxLisp.Proofs.Reading.Legible
import SandboxLisp.Proofs.Reading.RoundTrip
import SandboxLisp.Proofs.Settings.Sharing
import SandboxLisp.Proofs.Evaluation.Folds
import SandboxLisp.Proofs.Evaluation.Selections
import SandboxLisp.Proofs.Data.Essence
import SandboxLisp.Proofs.Data.Sameness
import SandboxLisp.Proofs.Data.Ordering
import SandboxLisp.Proofs.Data.Levels
import SandboxLisp.Proofs.Data.Coherence
import SandboxLisp.Proofs.Sorting.Permutation
import SandboxLisp.Proofs.Sorting.Ascending
import SandboxLisp.Proofs.Sorting.Merged
import SandboxLisp.Proofs.Sorting.Sorted
import SandboxLisp.Proofs.Evaluation.SortBy
import SandboxLisp.Proofs.Identity.Kept
import SandboxLisp.Proofs.Identity.Primitives
import SandboxLisp.Proofs.Identity.Evaluation
import SandboxLisp.Proofs.Data.Paths
import SandboxLisp.Proofs.Data.Exchange
import SandboxLisp.Proofs.Data.Equivalence
import SandboxLisp.Proofs.Reading.Layout
import SandboxLisp.Proofs.Number.LeadingInteger
import SandboxLisp.Proofs.Number.Nearest
import SandboxLisp.Proofs.Number.HalfUp
import SandboxLisp.Proofs.Number.Stepping
import SandboxLisp.Proofs.Number.Progression
import SandboxLisp.Proofs.Number.LeadingNumber
import SandboxLisp.Proofs.Evaluation.Rereading
import SandboxLisp.Proofs.Data.Tables
import SandboxLisp.Proofs.Text.Splitting
import SandboxLisp.Proofs.Data.Objects
import SandboxLisp.Proofs.Evaluation.Clauses
import SandboxLisp.Proofs.Evaluation.Guards
