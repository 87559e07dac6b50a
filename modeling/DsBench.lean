import DsBench.Foundation.TransitionSystem
import DsBench.Foundation.Decimal
import DsBench.Foundation.Json
import DsBench.Foundation.StoppingScan
import DsBench.Foundation.ProducerSession
import DsBench.Harness.Walk
import DsBench.Fleet.ProducerOwnership
import DsBench.Workloads.MultiStreamWriter
import DsBench.Fleet.BarrierSafety
import DsBench.Workloads.MultiStreamResult
import DsBench.Harness.MergedReading
import DsBench.Harness.LastObject
import DsBench.Harness.SustainedCell
import DsBench.Harness.Confirm
import DsBench.Merge.Windows
import DsBench.Harness.ResultIsolation
import DsBench.Workloads.Mixed
import DsBench.Workloads.MultiStreamPool
import DsBench.Workloads.MultiFanout
import DsBench.Workloads.MultiFanoutWindow
import DsBench.Harness.ImageDigest
import DsBench.Harness.SweepResume
import DsBench.Harness.SuiteStatus
import DsBench.Foundation.FieldSearch
import DsBench.Foundation.AssembledJson
import DsBench.Foundation.JsonLexing
import DsBench.Workloads.MixedResult
import DsBench.Harness.CellRecorders
import DsBench.Harness.PartialFleet
import DsBench.Foundation.StreamFraming
import DsBench.Workloads.SseUtil
import DsBench.Foundation.HexBytes
import DsBench.Foundation.Base64
import DsBench.Workloads.TimestampCodec
import DsBench.Foundation.FollowedLogs
import DsBench.Workloads.DeliveryClock
import DsBench.Harness.SweepHistory
import DsBench.Harness.Patience
import DsBench.Harness.Report
import DsBench.Harness.LegacyCardinality
import DsBench.Workloads.PoolOwnership
import DsBench.Workloads.ReceiveLoops
import DsBench.Workloads.DeliveryCount
import DsBench.Workloads.RecordGroups
import DsBench.Workloads.PoolAccounting
import DsBench.Workloads.SoloPool
import DsBench.Workloads.Sustained
import DsBench.Workloads.PhasedWriter
import DsBench.Workloads.SettleBurst
import DsBench.Foundation.PagedRead
import DsBench.Workloads.ReplayLoop
import DsBench.Workloads.Fanout
import DsBench.Foundation.LittleEndian
import DsBench.Foundation.Strides
import DsBench.Workloads.LongPoll
import DsBench.Workloads.Seeding
import DsBench.Foundation.BoundedDriver
import DsBench.Workloads.StreamSetup
import DsBench.Workloads.RequestBody
import DsBench.Workloads.TimestampScan
import DsBench.Workloads.DataLines
import DsBench.Foundation.BucketCounts
import DsBench.Merge.ScanOrder
import DsBench.Harness.HdrMerge
import DsBench.Harness.ClassHistograms
import DsBench.Workloads.Bootstrap
import DsBench.Harness.CatchupBody
import DsBench.Foundation.Tiling
import DsBench.Foundation.AppendLedger
import DsBench.Workloads.WriteAccuracy
import DsBench.Harness.WriteVerdict
import DsBench.Foundation.LogCursor
import DsBench.Workloads.LongPollReaders
import DsBench.Foundation.FramedChannel
import DsBench.Workloads.SseReaders
import DsBench.Foundation.GuardedDriver
import DsBench.Workloads.Preload
import DsBench.Harness.MixedLevel
import DsBench.Foundation.PermitPool
import DsBench.Workloads.BusyMessages
import DsBench.Workloads.Stampede
import DsBench.Workloads.ReadsResult
import DsBench.Harness.ReadsLevel
import DsBench.Foundation.SavedDocument
import DsBench.Foundation.PythonJson
import DsBench.Foundation.PythonReader
import DsBench.Foundation.PythonLexing
import DsBench.Harness.CellDocuments
import DsBench.Harness.CellRecovery
import DsBench.Harness.SweepRecovery
import DsBench.Workloads.AppendFleet
import DsBench.Harness.Watchdog
