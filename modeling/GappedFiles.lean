import GappedFiles.Registry.Call
import GappedFiles.Proofs.Layout
import GappedFiles.Proofs.Placement
import GappedFiles.Proofs.Operations
import GappedFiles.Proofs.WellFormed
import GappedFiles.Proofs.Reading
import GappedFiles.Proofs.Reachable
import GappedFiles.Proofs.FlatFile
import GappedFiles.Proofs.Buffering
import GappedFiles.Proofs.Strict
import GappedFiles.Proofs.Exact
import GappedFiles.Proofs.Agreement
import GappedFiles.Proofs.Movement
import GappedFiles.Proofs.Growth
import GappedFiles.Proofs.WrittenLayout
import GappedFiles.Proofs.BufferPass
import GappedFiles.Proofs.Landing
import GappedFiles.Proofs.Refilling
import GappedFiles.Proofs.Isolation
import GappedFiles.Proofs.Creation
import GappedFiles.Proofs.Canonical
import GappedFiles.Proofs.Commuting
import GappedFiles.Proofs.JournalLines
import GappedFiles.Proofs.Journal
import GappedFiles.Proofs.Collecting
import GappedFiles.Proofs.PassPieces
import GappedFiles.Proofs.Limits
import GappedFiles.Proofs.Pending
import GappedFiles.Proofs.Coalescing
import GappedFiles.Proofs.Refusals
import GappedFiles.Proofs.Raw
import GappedFiles.Proofs.Representation
