import Rub.AssetContainment
import Rub.CriticalBacklog
import Rub.CurlExport
import Rub.DownloadWindow
import Rub.FingerprintSoundness
import Rub.HandoffPause
import Rub.HistoryCompleteness
import Rub.HistoryReplay
import Rub.MemoTransparency
import Rub.OrchestrationAttempts
import Rub.OrchestrationDispatch
import Rub.PipePrefix
import Rub.ProgressOverflow
import Rub.RedactionCompleteness
import Rub.ReplayDiscipline
import Rub.ReplayStoreInvariant
import Rub.RequestWindowChain
import Rub.RetryFingerprint
import Rub.SessionPaths
import Rub.SnapshotAuthority
import Rub.StaleCompletion
import Rub.StepCommandId
import Rub.TempDaemonRelease
import Rub.TriggerBaseline
import Rub.TriggerDropAccounting
import Rub.TriggerFiring
import Rub.TriggerRetry
import Rub.WorkflowBudget
import Rub.WorkflowSecrets
