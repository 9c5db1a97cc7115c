import Sts2Gateway.Library.Calendar
import Sts2Gateway.Library.CheckpointedRun
import Sts2Gateway.Library.Columns
import Sts2Gateway.Library.Crash
import Sts2Gateway.Library.Lockstep
import Sts2Gateway.Library.Digits
import Sts2Gateway.Library.Exchange
import Sts2Gateway.Library.Json
import Sts2Gateway.Library.JsonAccess
import Sts2Gateway.Library.Machine
import Sts2Gateway.Library.OrderedMap
import Sts2Gateway.Library.Procedure
import Sts2Gateway.Library.Selection
import Sts2Gateway.Library.Table
import Sts2Gateway.Library.Text
import Sts2Gateway.Library.Walk
import Sts2Gateway.Library.Listing
import Sts2Gateway.RuntimeV2.Contract
import Sts2Gateway.RuntimeV2.Identity
import Sts2Gateway.RuntimeV2.Binding
import Sts2Gateway.RuntimeV2.Ledger
import Sts2Gateway.RuntimeV2.Invariant
import Sts2Gateway.RuntimeV2.Calls
import Sts2Gateway.RuntimeV2.Restart
import Sts2Gateway.RuntimeV2.Runs
import Sts2Gateway.RuntimeV2.Dispatch
import Sts2Gateway.RuntimeV2.Lifecycle
import Sts2Gateway.RuntimeV2.Evidence
import Sts2Gateway.SeededRun.Contract
import Sts2Gateway.SeededRun.Ledger
import Sts2Gateway.SeededRun.Calls
import Sts2Gateway.SeededRun.Restart
import Sts2Gateway.SeededRun.Dispatch
import Sts2Gateway.SeededRun.Equivalence
import Sts2Gateway.SeededRun.Submission
import Sts2Gateway.Recovery.Contract
import Sts2Gateway.Recovery.Canonical
import Sts2Gateway.Recovery.CanonicalGrammar
import Sts2Gateway.Recovery.CanonicalText
import Sts2Gateway.Recovery.Store
import Sts2Gateway.Recovery.Authority
import Sts2Gateway.Recovery.HostLease
import Sts2Gateway.Recovery.Operations
import Sts2Gateway.Recovery.Columns
import Sts2Gateway.Recovery.Tickets
import Sts2Gateway.Recovery.Reports
import Sts2Gateway.Recovery.ContinuationOwner
import Sts2Gateway.Recovery.Runs
import Sts2Gateway.Recovery.LeaseSteps
import Sts2Gateway.Recovery.Fence
import Sts2Gateway.Recovery.Backup
import Sts2Gateway.Recovery.Generations
import Sts2Gateway.Recovery.HostStates
import Sts2Gateway.Recovery.OwnerClaims
import Sts2Gateway.Recovery.Renewal
import Sts2Gateway.Recovery.OperationSteps
import Sts2Gateway.Recovery.TicketBinding
import Sts2Gateway.Recovery.TicketHistory
import Sts2Gateway.Recovery.Retention
import Sts2Gateway.Recovery.Outcomes
import Sts2Gateway.Recovery.Archive
import Sts2Gateway.SaveProfile.Contract
import Sts2Gateway.SaveProfile.Ledger
import Sts2Gateway.SaveProfile.OperationStore
import Sts2Gateway.SaveProfile.Stores
import Sts2Gateway.SaveProfile.Calls
import Sts2Gateway.SaveProfile.Safety
import Sts2Gateway.SaveProfile.RestartEquivalence
import Sts2Gateway.SaveProfile.Provisioning
import Sts2Gateway.SaveProfile.ProvisioningCourses
import Sts2Gateway.SaveProfile.ProvisioningSafety
import Sts2Gateway.SaveProfile.ProvisioningCapacity
import Sts2Gateway.ControlPlane.Contract
import Sts2Gateway.ControlPlane.Gateway
import Sts2Gateway.ControlPlane.Effects
import Sts2Gateway.ControlPlane.Ownership
import Sts2Gateway.ControlPlane.Fencing
import Sts2Gateway.ControlPlane.CoopSession
import Sts2Gateway.Lifecycle.Contract
import Sts2Gateway.Lifecycle.Bodies
import Sts2Gateway.Lifecycle.Store
import Sts2Gateway.Lifecycle.SqliteStore
import Sts2Gateway.Lifecycle.Stops
import Sts2Gateway.Lifecycle.StoreAgreement
import Sts2Gateway.Lifecycle.Generation
import Sts2Gateway.Lifecycle.Coordinator
import Sts2Gateway.Lifecycle.Currency
import Sts2Gateway.Lifecycle.Ports
import Sts2Gateway.Lifecycle.Actions
import Sts2Gateway.Lifecycle.Reconcile
import Sts2Gateway.Lifecycle.Operations
import Sts2Gateway.Lifecycle.Moves
import Sts2Gateway.Lifecycle.CallPaths
import Sts2Gateway.Lifecycle.Rebuilding
import Sts2Gateway.Lifecycle.Runs
import Sts2Gateway.Lifecycle.Starts
import Sts2Gateway.Lifecycle.RecordWrites
import Sts2Gateway.Lifecycle.Histories
import Sts2Gateway.Lifecycle.Capacity
import Sts2Gateway.Lifecycle.ProfileAdapter
import Sts2Gateway.Lifecycle.LaunchCustody
import Sts2Gateway.Native.Registry
import Sts2Gateway.Native.Port
import Sts2Gateway.Native.Discipline
import Sts2Gateway.Service.Timestamps
import Sts2Gateway.Service.CivilDays
import Sts2Gateway.Service.TimestampRoundTrip
import Sts2Gateway.Service.TimestampReaders
import Sts2Gateway.Service.HostLeaseControl
import Sts2Gateway.Service.Frames
import Sts2Gateway.Service.Catalog
import Sts2Gateway.Service.CatalogRuns
import Sts2Gateway.Service.Evidence
import Sts2Gateway.Service.State
import Sts2Gateway.Service.HostLeases
import Sts2Gateway.Service.Allocation
import Sts2Gateway.Service.Operations
import Sts2Gateway.Service.Gameplay
import Sts2Gateway.Service.Requests
import Sts2Gateway.Service.Twins
import Sts2Gateway.Service.FailedLookups
import Sts2Gateway.Service.HostEvidence
import Sts2Gateway.GameInformation.Payload
import Sts2Gateway.GameInformation.Service
import Sts2Gateway.GameInformation.Cursors
import Sts2Gateway.CoopNative.Contract
import Sts2Gateway.RestAction.Closure
import Sts2Gateway.RestAction.Slots
import Sts2Gateway.Http.RoundTrip
import Sts2Gateway.Http.Segmentation
import Sts2Gateway.RuntimeMap.Relations
import Sts2Gateway.Service.CatalogBytes
import Sts2Gateway.Service.CanonicalForm
import Sts2Gateway.CoopNative.Outstanding
