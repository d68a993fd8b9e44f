import Pooling.Session
import Pooling.Catalog
import Pooling.Proofs.WindowStarts
import Pooling.Proofs.SameModes
import Pooling.Proofs.CacheTrust
import Pooling.Proofs.ConfigurationReads
import Pooling.Proofs.AxisByAxis
import Pooling.Proofs.ExplicitPadding
import Pooling.Proofs.Overflow
import Pooling.Proofs.ExactRange
import Pooling.Proofs.Defaulting
import Pooling.Proofs.Dependence
import Pooling.Proofs.Retargeting
import Pooling.Proofs.Interleaving
import Pooling.Proofs.Tracing
import Pooling.Proofs.LastWindow
import Pooling.Proofs.LeastPadding
import Pooling.Proofs.MirroredPadding
import Pooling.Proofs.RoundingUp
import Pooling.Proofs.LongerInputs
import Pooling.Proofs.OutputAsInput
import Pooling.Proofs.StackedPools
import Pooling.Proofs.GuardedReads
import Pooling.Proofs.Messages
import Pooling.Proofs.CatalogCases
