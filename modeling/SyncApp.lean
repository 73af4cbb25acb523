import SyncApp.Supervisor.Envelope
import SyncApp.Snapshot.Agreement
import SyncApp.Publication.Fidelity
import SyncApp.LiveApply.WriteAhead
import SyncApp.LiveApply.Settling
import SyncApp.LiveApply.Completeness
import SyncApp.Pipeline.LostRecord
import SyncApp.Pipeline.PromotedMain
import SyncApp.Pipeline.Exclusion
import SyncApp.Pipeline.Budget
import SyncApp.Pipeline.BackupOutage
import SyncApp.Pipeline.WorkRuns
import SyncApp.Pipeline.Discovery
import SyncApp.Pipeline.LogOrder
import SyncApp.Pipeline.LaneCoverage
import SyncApp.Preflight.Risk
import SyncApp.Candidate.StageLoading
import SyncApp.Logs.RoundTrip
import SyncApp.Pipeline.Verdict
import SyncApp.Runtime.EventWorker
import SyncApp.Pipeline.WorkRows
import SyncApp.Records.Codecs
import SyncApp.Pipeline.RestoreVerdict
import SyncApp.Pipeline.RetryReceipts
import SyncApp.Retention.History
import SyncApp.LiveApply.Interference
import SyncApp.DeployKey.Preservation
import SyncApp.LocalChange.Tracking
