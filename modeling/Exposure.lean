import Exposure.Expectation.Case
import Exposure.Main
import Exposure.Program.TypeName
import Exposure.Proofs.Isolation
import Exposure.Proofs.Verdict
import Exposure.Proofs.Journal
import Exposure.Proofs.Statistics
import Exposure.Proofs.TouchPointOrder
import Exposure.Proofs.Documents
import Exposure.Proofs.SimplePaths
import Exposure.Proofs.Distance
import Exposure.Proofs.AppNames
import Exposure.Proofs.Declared
import Exposure.Proofs.Outcome
import Exposure.Proofs.Return
import Exposure.Proofs.Noninterference
import Exposure.Proofs.Metric
import Exposure.Proofs.BugPaths
import Exposure.Proofs.Resolution
import Exposure.Proofs.EffectiveNames
import Exposure.Proofs.Membership
import Exposure.Proofs.Archives
import Exposure.Proofs.DocumentBuild
import Exposure.Proofs.PathLimits
import Exposure.Proofs.Pool
import Exposure.Proofs.Units
import Exposure.Proofs.PackageNames
import Exposure.Proofs.Growth
import Exposure.Proofs.SyntheticParts
import Exposure.Proofs.FunctionGraphs
import Exposure.Proofs.NodeOrder
import Exposure.Proofs.Reporting
import Exposure.Proofs.Tiling
import Exposure.Proofs.AssemblyCalls
import Exposure.Proofs.EdgeTexts
import Exposure.Proofs.PackageVariants
import Exposure.Proofs.PathElements
