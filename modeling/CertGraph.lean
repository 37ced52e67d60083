import CertGraph.Certificate.Reading
import CertGraph.Main
import CertGraph.Rsa.Armored
import CertGraph.Proofs.Resolution.Outcome
import CertGraph.Proofs.Resolution.Runs
import CertGraph.Proofs.Resolution.Calls
import CertGraph.Proofs.Resolution.Order
import CertGraph.Proofs.FileTree.Adding
import CertGraph.Proofs.FileTree.Moving
import CertGraph.Proofs.FileTree.Removing
import CertGraph.Proofs.Publication.Failure
import CertGraph.Proofs.Resolution.PostOrder
import CertGraph.Proofs.Certificate.KeyIdentifiers
import CertGraph.Proofs.Issuance.Issued
import CertGraph.Proofs.Resolution.Products
import CertGraph.Proofs.Resolution.Cycles
import CertGraph.Proofs.Resolution.Nest
import CertGraph.Proofs.FileTree.Components
import CertGraph.Proofs.FileTree.Replay
import CertGraph.Proofs.FileTree.Clearing
import CertGraph.Proofs.FileTree.Paving
import CertGraph.Proofs.Publication.Staged
import CertGraph.Proofs.Publication.Moved
import CertGraph.Proofs.Publication.Committed
import CertGraph.Proofs.FileTree.Refusing
import CertGraph.Proofs.Publication.Opening
import CertGraph.Proofs.Publication.Leftovers
import CertGraph.Proofs.Publication.Targets
import CertGraph.Proofs.Publication.Published
import CertGraph.Proofs.Serial
import CertGraph.Proofs.Armor.Base64
import CertGraph.Proofs.Armor.Blocks
import CertGraph.Proofs.Certificate.Stamps
import CertGraph.Proofs.Certificate.RoundTrip
import CertGraph.Proofs.Issuance.Readable
import CertGraph.Proofs.Publication.Generated
import CertGraph.Proofs.Resolution.Moments
import CertGraph.Proofs.Resolution.History
import CertGraph.Proofs.Resolution.Retry
import CertGraph.Proofs.Publication.Reordered
import CertGraph.Proofs.Cluster.Resolving
import CertGraph.Proofs.Issuance.Ledger
import CertGraph.Proofs.Issuance.Draws
import CertGraph.Proofs.Resolution.Attempts
import CertGraph.Proofs.Resolution.Draws
import CertGraph.Proofs.Rsa.Reading
import CertGraph.Proofs.Issuance.Reloaded
import CertGraph.Proofs.Issuance.Guarded
import CertGraph.Proofs.Issuance.Failing
import CertGraph.Proofs.Issuance.Returning
import CertGraph.Proofs.Issuance.Window
import CertGraph.Proofs.Issuance.Profile
import CertGraph.Proofs.Cluster.FileNames
import CertGraph.Proofs.CommandLine.Performing
import CertGraph.Proofs.CommandLine.Ending
import CertGraph.Proofs.Issuance.Escaping
import CertGraph.Proofs.Issuance.Uncarried
import CertGraph.Proofs.Resolution.Bundled
import CertGraph.Proofs.Resolution.Misnamed
import CertGraph.Proofs.Resolution.Revisited
import CertGraph.Proofs.Resolution.Depth
import CertGraph.Proofs.Cluster.Strangers
import CertGraph.Proofs.Publication.Exposure
import CertGraph.Proofs.Net.AddressText
import CertGraph.Proofs.Net.NetworkText
import CertGraph.Proofs.Net.Offset
import CertGraph.Proofs.FileTree.Performing
import CertGraph.Proofs.Publication.Laid
import CertGraph.Proofs.Publication.Carried
import CertGraph.Proofs.Publication.Straying
import CertGraph.Proofs.LogLine.Members
import CertGraph.Proofs.LogLine.Restricting
import CertGraph.Proofs.Certificate.SerialText
