import VdrSuite.Library.Bytes
import VdrSuite.Library.Run
import VdrSuite.Operations.MutationOperation
import VdrSuite.Operations.MutationOperationRepository
import VdrSuite.Operations.MutationOperationRepositoryProperties
import VdrSuite.Operations.MutationOperationTerminal
import VdrSuite.Operations.MutationOperationReplay
import VdrSuite.Agent.LocalProvider
import VdrSuite.Core.ProviderOwnership
import VdrSuite.Core.ProviderOwnershipProperties
import VdrSuite.Agent.CommandStateRoundTrip
import VdrSuite.Core.ProviderFence
import VdrSuite.Core.CommandActivation
import VdrSuite.Agent.NativeCommandBinding
import VdrSuite.Core.TimerResults
import VdrSuite.Timers.AssignmentSetFence
import VdrSuite.Plugin.OsdContinuity
import VdrSuite.Timers.NativeTimerBindingRuns
import VdrSuite.Plugin.NativePlugin
import VdrSuite.Plugin.NativeExecAgreement
import VdrSuite.Core.RecordingReconciliationProperties
import VdrSuite.Timers.TimerAssignmentScheduling
import VdrSuite.Timers.ActiveAssignments
import VdrSuite.Timers.ReplicaPolicy
import VdrSuite.Timers.TimerAssignmentSchedulingRuns
import VdrSuite.Media.MediaSessionProperties
import VdrSuite.Media.ContinueWatchingRuns
import VdrSuite.Security.AuthorizationService
import VdrSuite.Hbbtv.ApplicationSessionRuns
import VdrSuite.Osd.OsdControllerLeaseRuns
import VdrSuite.Security.FirstAdminClaimRuns
import VdrSuite.Security.DevicePairingRuns
import VdrSuite.Agent.CommandIdentity
import VdrSuite.Agent.NativeExecutorProperties
import VdrSuite.Core.PollDelivery
import VdrSuite.Agent.ProtectedWriteProperties
import VdrSuite.Agent.SuiteBridgeObservationRuns
import VdrSuite.Agent.NativeTimerCreateCodec
import VdrSuite.Epg.AuthoritativeWindowProperties
import VdrSuite.SearchTimers.PublicIdentityRuns
import VdrSuite.SearchTimers.CreateDispatchRuns
import VdrSuite.Osd.OsdFrameBuffer
import VdrSuite.Osd.OsdViewerRuns
import VdrSuite.Plugin.LiveReplayBuffer
import VdrSuite.Core.ReconciliationCandidates
import VdrSuite.Agent.ControlPlaneProtocol
import VdrSuite.Timers.EpgNativeTimer
import VdrSuite.Timers.TimerAssignmentLifecycle
import VdrSuite.Timers.NativeTimerOperationPayloadProperties
import VdrSuite.Agent.OsdSnapshotAgreement
import VdrSuite.Timers.TimerAssignmentReassignmentRuns
import VdrSuite.Http.PublicResourcePreconditions
import VdrSuite.SearchTimers.CreateOperationPayloadProperties
import VdrSuite.Recordings.RecordingMetadataCacheProperties
import VdrSuite.Live.DeviceLiveEventRuns
import VdrSuite.Http.MediaGatewayByteRangeProperties
import VdrSuite.Http.SimpleHttpListenerSegmentation
import VdrSuite.Epg.EventWindowProperties
import VdrSuite.Agent.HttpAuthorization
import VdrSuite.Agent.Utf8Validation
import VdrSuite.Recordings.RecordingCacheRefreshQueue
import VdrSuite.Epg.SnapshotMerge
