import BodyCheck.Main
import BodyCheck.Proofs.Soundness
import BodyCheck.Proofs.Rendering
import BodyCheck.Proofs.Simplification
import BodyCheck.Proofs.SharedPaths
import BodyCheck.Proofs.Rebuilding
import BodyCheck.Proofs.Replacement
import BodyCheck.Proofs.Configuration
import BodyCheck.Proofs.Prefixes
import BodyCheck.Proofs.Refusals
import BodyCheck.Proofs.Loading
import BodyCheck.Proofs.Batches
import BodyCheck.Proofs.Precedence
import BodyCheck.Proofs.ImportBlocks
import BodyCheck.Proofs.EmptyContainers
import BodyCheck.Proofs.Overriding
import BodyCheck.Proofs.ArgumentShapes
import BodyCheck.Proofs.Literals
import BodyCheck.Proofs.NormalRequests
import BodyCheck.Proofs.WrittenPairs
import BodyCheck.Proofs.Ports
