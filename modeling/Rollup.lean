import Rollup.Blueprint
import Rollup.Pass.Recording
import Rollup.Proofs.Index
import Rollup.Wire.Settings
import Rollup.Proofs.Coherence
import Rollup.Proofs.Answers
import Rollup.Proofs.Pass.Replay
import Rollup.Proofs.Pass.Refinement
import Rollup.Proofs.Ledger
import Rollup.Proofs.Pass.Account
import Rollup.Proofs.Pass.Marking
import Rollup.Proofs.FacetSets
import Rollup.Proofs.Standard
import Rollup.Proofs.DependencyGate
import Rollup.Proofs.ClosedForm
import Rollup.Proofs.LastRow
import Rollup.Proofs.Pass.Aftermath
import Rollup.Proofs.Pass.Offers
import Rollup.Proofs.Pass.Persistence
import Rollup.Proofs.Releases
import Rollup.Proofs.Windows
import Rollup.Proofs.Pass.StageGate
import Rollup.Proofs.Fetching
import Rollup.Proofs.Preceding
import Rollup.Proofs.Pass.Steady
import Rollup.Proofs.Pass.Quiet
import Rollup.Proofs.Shuffles
import Rollup.Proofs.Pass.Batches
import Rollup.Proofs.Rearranging
import Rollup.Proofs.Pass.Consistent
import Rollup.Proofs.Pass.Confluence
import Rollup.Proofs.Numerals
import Rollup.Proofs.Records
import Rollup.Proofs.Exports
import Rollup.Proofs.Accesses
import Rollup.Proofs.Usage
import Rollup.Proofs.Partition
import Rollup.Proofs.FirstMatch
import Rollup.Proofs.Disciplines
import Rollup.Proofs.Absorption
import Rollup.Proofs.Overlay
import Rollup.Proofs.Pass.Cascade
import Rollup.Proofs.RoundTrips
import Rollup.Proofs.Probes
import Rollup.Proofs.Variables
import Rollup.Proofs.Resemblance
import Rollup.Proofs.Pass.Indifference
import Rollup.Proofs.MemoUse
import Rollup.Proofs.Pass.Counting
