import RoleGraph.Main
import RoleGraph.Render.Layout
import RoleGraph.Proofs.GraphGrowth
import RoleGraph.Proofs.TaskIncludes
import RoleGraph.Proofs.Trace
import RoleGraph.Proofs.Completion
import RoleGraph.Proofs.DepthLimit
import RoleGraph.Proofs.History
import RoleGraph.Proofs.Intact
import RoleGraph.Proofs.CallGraph
import RoleGraph.Proofs.GraphOperations
import RoleGraph.Proofs.NodeIdentity
import RoleGraph.Proofs.GraphAdditions
import RoleGraph.Proofs.SharedGraph
import RoleGraph.Proofs.NoOrphans
import RoleGraph.Proofs.Rerun
import RoleGraph.Proofs.Outcome
import RoleGraph.Proofs.HistoryIndependence
import RoleGraph.Proofs.MemoCalls
import RoleGraph.Proofs.FileIdentity
import RoleGraph.Proofs.RelevantVariables
import RoleGraph.Proofs.ResolvedIncludes
import RoleGraph.Proofs.ScanOrder
import RoleGraph.Proofs.RunOutcome
import RoleGraph.Proofs.DotReading
import RoleGraph.Proofs.DocumentReplay
import RoleGraph.Proofs.RaisedLimit
import RoleGraph.Proofs.ExactCandidates
import RoleGraph.Proofs.ExactSummary
import RoleGraph.Proofs.ArgumentUse
import RoleGraph.Proofs.FileSettings
import RoleGraph.Proofs.OptionValues
import RoleGraph.Proofs.SettingLayers
import RoleGraph.Proofs.RolesDirChoice
import RoleGraph.Proofs.PathSpelling
import RoleGraph.Proofs.OriginAddress
import RoleGraph.Proofs.IncludeRecursion
