import Ignis.Runs
import Ignis.States
import Ignis.IncidentEngine
import Ignis.EngineConsistency
import Ignis.EngineRetention
import Ignis.EngineReset
import Ignis.EngineEvidence
import Ignis.EngineSummary
import Ignis.EngineTiming
import Ignis.EngineGrowth
import Ignis.EngineAbsence
import Ignis.Tables
import Ignis.Database
import Ignis.Communications
import Ignis.Escalation
import Ignis.Backend
import Ignis.BackendEffects
import Ignis.BackendRecords
import Ignis.HazardRecords
import Ignis.UpdateOrder
import Ignis.Redelivery
import Ignis.Responses
import Ignis.FrozenResponses
import Ignis.ResponseTasks
import Ignis.TaskExclusion
import Ignis.Timeouts
import Ignis.CallLimits
import Ignis.CallStatuses
import Ignis.Arming
import Ignis.ResolvedCalls
import Ignis.CallGate
import Ignis.Resolutions
import Ignis.EvidenceColumns
import Ignis.Silencing
import Ignis.CallProvenance
import Ignis.CallIds
import Ignis.CallExits
import Ignis.Framing
import Ignis.Scanning
import Ignis.Protocol
import Ignis.Reassembly
import Ignis.QnxProtocol
import Ignis.QnxParser
import Ignis.Watchdog
import Ignis.WatchdogPids
import Ignis.WireAgreement
import Ignis.FireVerifier
import Ignis.FireHistory
import Ignis.FireIncidents
import Ignis.FireLoss
import Ignis.FireGaps
import Ignis.EdgeLoop
import Ignis.LocalLog
import Ignis.DeviceServer
import Ignis.DeviceRegistry
import Ignis.Strangers
import Ignis.ConnectionRecords
import Ignis.Announcements
import Ignis.PendingCalls
import Ignis.LiveView
import Ignis.Dashboards
import Ignis.DeviceLink
import Ignis.DeviceTraffic
import Ignis.DeviceSession
import Ignis.HazardTracking
import Ignis.DeviceRejections
import Ignis.ActiveIncidents
import Ignis.DeviceReception
import Ignis.Coalescing
import Ignis.Delivery
import Ignis.Handshake
import Ignis.RateLimiter
import Ignis.EvidenceBuffer
import Ignis.ReplaySource
import Ignis.FramePayload
import Ignis.BurstErrors
import Ignis.Nms
import Ignis.YoloDecoder
import Ignis.Winding
import Ignis.ZoneOverlap
import Ignis.RunningMaximum
import Ignis.ZoneChoice
import Ignis.ZoneClipping
import Ignis.JsonValues
import Ignis.Redaction
import Ignis.JsonText
import Ignis.HelloText
import Ignis.SourceSplit
import Ignis.CameraPipe
import Ignis.ObservationFormatter
import Ignis.UnansweredFires
import Ignis.TableGrowth
import Ignis.RowHistory
import Ignis.Timelines
import Ignis.OccupantAnswers
import Ignis.PanelMemory
import Ignis.LcdDriver
import Ignis.LcdTransfers
import Ignis.LcdPictures
import Ignis.LcdFrames
import Ignis.LcdGuard
import Ignis.DashboardSocket
import Ignis.ControlChannel
import Ignis.StreamService
import Ignis.StreamDelivery
import Ignis.ServiceSettings
import Ignis.Segments
import Ignis.FrameRing
import Ignis.FireCalls
import Ignis.FireAlarms
import Ignis.CalledFires
