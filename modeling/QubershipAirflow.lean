import QubershipAirflow.Library.Lists
import QubershipAirflow.Library.Paths
import QubershipAirflow.Library.Runs
import QubershipAirflow.Library.VersionedStore
import QubershipAirflow.Library.WaitGroup
import QubershipAirflow.Library.Programs
import QubershipAirflow.Library.Transcripts
import QubershipAirflow.Library.TaskGraph
import QubershipAirflow.Library.LiveTasks
import QubershipAirflow.Library.ShellScripts
import QubershipAirflow.Library.LogDispatch
import QubershipAirflow.Library.Json
import QubershipAirflow.Library.JsonEquality
import QubershipAirflow.Library.JsonLocations
import QubershipAirflow.Library.JsonNodes
import QubershipAirflow.Library.JsonAlike
import QubershipAirflow.Library.Outlines
import QubershipAirflow.Library.Settling
import QubershipAirflow.Library.Helm
import QubershipAirflow.Library.PercentDecoding
import QubershipAirflow.Library.Uri
import QubershipAirflow.SiteManager.Workloads
import QubershipAirflow.SiteManager.ComponentStatus
import QubershipAirflow.SiteManager.Scaling
import QubershipAirflow.SiteManager.ConcurrentScaling
import QubershipAirflow.SiteManager.ChangeMode
import QubershipAirflow.SiteManager.Switchovers
import QubershipAirflow.SiteManager.Moves
import QubershipAirflow.SiteManager.Goroutines
import QubershipAirflow.SiteManager.Provenance
import QubershipAirflow.SiteManager.Failures
import QubershipAirflow.SiteManager.Reports
import QubershipAirflow.SiteManager.Coverage
import QubershipAirflow.SiteManager.Completion
import QubershipAirflow.SiteManager.Leftovers
import QubershipAirflow.SiteManager.WorkerDeletions
import QubershipAirflow.SiteManager.Progress
import QubershipAirflow.SiteManager.ScaleUp
import QubershipAirflow.SiteManager.RoundTrip
import QubershipAirflow.SiteManager.Channels
import QubershipAirflow.SiteManager.Health
import QubershipAirflow.SiteManager.Readiness
import QubershipAirflow.SiteManager.HealthChanges
import QubershipAirflow.SiteManager.ExecutorPods
import QubershipAirflow.DrSync.SnapshotNames
import QubershipAirflow.DrSync.Hdfs
import QubershipAirflow.DrSync.FolderTasks
import QubershipAirflow.DrSync.Histories
import QubershipAirflow.DrSync.FolderViews
import QubershipAirflow.DrSync.TaskContracts
import QubershipAirflow.DrSync.Disciplines
import QubershipAirflow.DrSync.Managed
import QubershipAirflow.DrSync.Undisturbed
import QubershipAirflow.DrSync.Consistency
import QubershipAirflow.DrSync.Rejections
import QubershipAirflow.DrSync.Cleanup
import QubershipAirflow.DrSync.FailingCalls
import QubershipAirflow.DrSync.Atomicity
import QubershipAirflow.DrSync.Acceptance
import QubershipAirflow.DrSync.DagWiring
import QubershipAirflow.DrSync.TaskIds
import QubershipAirflow.Secrets.ConnectionUris
import QubershipAirflow.Secrets.Backend
import QubershipAirflow.Secrets.Sources
import QubershipAirflow.Secrets.KafkaTopics
import QubershipAirflow.Secrets.KafkaConnections
import QubershipAirflow.Secrets.MountedSecrets
import QubershipAirflow.Secrets.Degradation
import QubershipAirflow.Secrets.MainDatabases
import QubershipAirflow.Secrets.Requests
import QubershipAirflow.Secrets.Authorization
import QubershipAirflow.Chart.Release
import QubershipAirflow.Chart.Declarative
import QubershipAirflow.Chart.ConnectionNames
import QubershipAirflow.Chart.VolumeSecrets
import QubershipAirflow.Chart.Classifiers
import QubershipAirflow.Chart.Workloads
import QubershipAirflow.Chart.MonitoredResources
import QubershipAirflow.Schema.Generation
import QubershipAirflow.Schema.Visits
import QubershipAirflow.Schema.Settlement
import QubershipAirflow.Schema.DefaultsMatch
import QubershipAirflow.Schema.Traces
import QubershipAirflow.Schema.Comparisons
import QubershipAirflow.Schema.DefinitionsKept
import QubershipAirflow.Schema.ValuesChecks
import QubershipAirflow.Schema.Merge
import QubershipAirflow.Schema.References
import QubershipAirflow.Schema.Sketches
import QubershipAirflow.Schema.Overlaps
import QubershipAirflow.Schema.Projection
import QubershipAirflow.Images.ReleaseImages
import QubershipAirflow.Images.TagSync
import QubershipAirflow.Images.Completeness
import QubershipAirflow.Images.Idempotence
import QubershipAirflow.Images.Frame
import QubershipAirflow.Databases.Precreation
import QubershipAirflow.Databases.DbaasJob
import QubershipAirflow.Databases.JobScript
import QubershipAirflow.Databases.JobRequests
import QubershipAirflow.Logging.Handlers
import QubershipAirflow.Logging.Configuration
import QubershipAirflow.Logging.Masking
import QubershipAirflow.DrSync.PrintedNumbers
import QubershipAirflow.Images.Contributions
import QubershipAirflow.DrSync.AmbariRequests
import QubershipAirflow.DrSync.HiveService
import QubershipAirflow.DrSync.SyncRuns
import QubershipAirflow.DrSync.SyncInvariants
import QubershipAirflow.DrSync.SyncFolders
import QubershipAirflow.DrSync.SyncConsistency
import QubershipAirflow.DrSync.HiveDowntime
import QubershipAirflow.DrSync.DatabaseCopies
import QubershipAirflow.Chart.RedirectRoute
import QubershipAirflow.Schema.CommonKeys
import QubershipAirflow.Schema.BareReferences
import QubershipAirflow.DagSync.Entrypoint
