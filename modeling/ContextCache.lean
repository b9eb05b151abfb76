import ContextCache.Main
import ContextCache.Scenario.Run
import ContextCache.Workbench.Run
import ContextCache.Proofs.CommandLine.Seeds
import ContextCache.Proofs.Config.Loading
import ContextCache.Proofs.Crowd.FirstReads
import ContextCache.Proofs.Crowd.Reclamation
import ContextCache.Proofs.Reader.Alarms
import ContextCache.Proofs.Reader.Balance
import ContextCache.Proofs.Reader.Failures
import ContextCache.Proofs.Reader.Repeats
import ContextCache.Proofs.Table.Promotion
import ContextCache.Proofs.Trial.Generator
import ContextCache.Proofs.Trial.Reports
import ContextCache.Proofs.World.Limits
import ContextCache.Proofs.World.Spread
