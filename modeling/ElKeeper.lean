import ElKeeper.PortProfiles
import ElKeeper.PortConflicts
import ElKeeper.ConflictChecks
import ElKeeper.Program
import ElKeeper.DurableWorld
import ElKeeper.Json
import ElKeeper.Lifecycle
import ElKeeper.RebootContracts
import ElKeeper.Database
import ElKeeper.MaintenanceStore
import ElKeeper.StateTransitions
import ElKeeper.RebootGateways
import ElKeeper.RebootOrchestrator
import ElKeeper.RebootSteps
import ElKeeper.RebootOnce
import ElKeeper.RebootGuards
import ElKeeper.Runs
import ElKeeper.WorkloadStore
import ElKeeper.WorkloadPayload
import ElKeeper.WorkloadValidation
import ElKeeper.WorkloadWorker
import ElKeeper.StartupRecovery
import ElKeeper.WorkloadSettlement
import ElKeeper.StartupFrame
import ElKeeper.BatchLife
import ElKeeper.BatchAtomicity
import ElKeeper.BatchRecovery
import ElKeeper.BatchLaunch
import ElKeeper.BatchOutcome
import ElKeeper.BatchConfigurations
import ElKeeper.BatchRollbackOrder
import ElKeeper.BatchRecoveryOrder
import ElKeeper.ResourceUpdates
import ElKeeper.ResourceRestore
import ElKeeper.MaintenanceLocks
import ElKeeper.AssignmentRevisions
import ElKeeper.ClusterExclusion
import ElKeeper.MaintenanceExecution
import ElKeeper.ManualMaintenance
import ElKeeper.MaintenanceWorkflow
import ElKeeper.HostReboot
import ElKeeper.HostMaintenance
import ElKeeper.ContainerMaintenance
import ElKeeper.StartupProtection
import ElKeeper.RunFinalizers
import ElKeeper.FinalizerOwnership
import ElKeeper.ExecutionSteps
import ElKeeper.WorkflowSteps
import ElKeeper.ContainerSteps
import ElKeeper.RebootReturn
import ElKeeper.RebootVerdicts
import ElKeeper.Coroutine
import ElKeeper.AllocationSettings
import ElKeeper.AllocationGuards
import ElKeeper.GuardRoundTrip
import ElKeeper.GuardDiscipline
import ElKeeper.GuardComposition
import ElKeeper.InventoryDeletion
import ElKeeper.PlanValidation
import ElKeeper.ContainerActions
import ElKeeper.WorkflowActions
import ElKeeper.DurableActions
import ElKeeper.WorkflowScope
import ElKeeper.ManualScope
import ElKeeper.LockExpiry
import ElKeeper.FailedActions
import ElKeeper.ReturnToService
import ElKeeper.DurableIntent
import ElKeeper.ZoneCatalogs
import ElKeeper.ZoningRecords
import ElKeeper.CertificateAssets
import ElKeeper.PreviewReplay
import ElKeeper.JsonText
import ElKeeper.Timestamps
import ElKeeper.CanonicalContent
import ElKeeper.PlanHashes
import ElKeeper.PlanCompilation
import ElKeeper.WorkloadNames
import ElKeeper.ImpactCalculation
import ElKeeper.ImpactSoundness
import ElKeeper.SafetyPredicates
import ElKeeper.PolicyComposition
import ElKeeper.RecoveryEvidence
import ElKeeper.ObservedRecovery
import ElKeeper.FinalizeAtomicity
import ElKeeper.ReturnDiscovery
import ElKeeper.ReturnRetry
import ElKeeper.PostReturnContracts
import ElKeeper.PostReturnCoordinator
import ElKeeper.PostReturnVerification
import ElKeeper.PostReturnAnswers
import ElKeeper.RolePortDerivation
import ElKeeper.PlanTokens
import ElKeeper.LexicalPaths
import ElKeeper.StoragePaths
import ElKeeper.RemovalRoutes
import ElKeeper.RedactionBarrier
import ElKeeper.PlanOrder
import ElKeeper.Savepoints
import ElKeeper.Migrations
import ElKeeper.SchemaSteps
import ElKeeper.MaintenanceSchema
import ElKeeper.OrderedTexts
import ElKeeper.CalendarInstants
import ElKeeper.OrderedTimestamps
import ElKeeper.ProgramSimulation
import ElKeeper.RecordedLocks
import ElKeeper.UpgradeManifests
import ElKeeper.LatestRecords
