import Aworkit.Core.BrokerSettlement
import Aworkit.Core.LifecycleReplay
import Aworkit.Core.RecoveryHandover
import Aworkit.Core.RepairActivation
import Aworkit.Core.SecretLease
import Aworkit.Desktop.Compaction
import Aworkit.Desktop.DeltaStream
import Aworkit.Desktop.LineEndings
import Aworkit.Desktop.ProviderRetry
import Aworkit.Desktop.SummaryFit
import Aworkit.Helper.CoordinatorRecovery
import Aworkit.Host.Retrieval
import Aworkit.LocalStore.BoundedCodec
import Aworkit.LocalStore.LedgerRun
import Aworkit.Worker.AgentPairing
import Aworkit.Worker.BranchJoin
import Aworkit.Worker.ContextCalls
import Aworkit.Worker.LimitRecovery
import Aworkit.Worker.PolicyHistory
import Aworkit.Worker.ReadyIndex
import Aworkit.Worker.ServiceDelivery
import Aworkit.Worker.SnapshotOrder
import Aworkit.Worker.SubagentAtomic
import Aworkit.Worker.SuspensionRun
import Aworkit.Worker.Transport
