import V2XHub.Lib.Run
import V2XHub.Lib.AssocList
import V2XHub.Lib.Delimited
import V2XHub.Lib.History
import V2XHub.Lib.JsonText
import V2XHub.Lib.Loop
import V2XHub.Lib.RefCount
import V2XHub.Lib.Restarting
import V2XHub.Lib.Rowwise
import V2XHub.Lib.SwapErase
import V2XHub.Tmx.FramerMemory
import V2XHub.Tmx.FramerStream
import V2XHub.Tmx.MessageManager
import V2XHub.Tmx.MessageRouter
import V2XHub.Tmx.PluginNames
import V2XHub.Priority.Builder
import V2XHub.Priority.Exchange
import V2XHub.Priority.ExchangeLaws
import V2XHub.Priority.Prg
import V2XHub.Priority.SsmLaws
import V2XHub.Preemption.Controller
import V2XHub.CarmaCloud.TrackingLaws
import V2XHub.Validation.MessageInterval
import V2XHub.Validation.RevisionLaws
import V2XHub.Rtcm.Container
import V2XHub.Rtcm.Resync
import V2XHub.Rtcm.Splitting
import V2XHub.Flir.Detections
import V2XHub.Command.Authorization
import V2XHub.Command.EventLog
import V2XHub.Command.Framing
import V2XHub.Command.TelemetryClients
import V2XHub.Command.Uploads
import V2XHub.Dms.Sign
import V2XHub.Dms.SignLaws
import V2XHub.Tim.Plugin
import V2XHub.Tim.Freshness
import V2XHub.Validation.ForwardingLaws
import V2XHub.Validation.MinimumDataLaws
import V2XHub.Tmx.SnmpClient
import V2XHub.Tmx.PluginMonitorLaws
import V2XHub.Tmx.DbConnectionPoolLaws
import V2XHub.Tmx.ThreadTimerLaws
import V2XHub.Tmx.MessageProfilerLaws
import V2XHub.Tmx.ConnectionQueueLaws
import V2XHub.Tmx.PluginConnectionLaws
import V2XHub.Tmx.ConfigAgreementRuns
import V2XHub.Tmx.SubscriptionAgreement
import V2XHub.Tmx.StatusMirror
import V2XHub.Map.PluginLaws
import V2XHub.Rtcm.ShortFrames
import V2XHub.Rtcm.NtripLaws
import V2XHub.Rtcm.Rtcm2Decoder
import V2XHub.Priority.Prioritization
import V2XHub.Priority.ServiceExchange
import V2XHub.Priority.Cancellation
import V2XHub.Rtcm.SpecialMessage
import V2XHub.Rtcm.Descriptors
import V2XHub.Priority.EtaCalendar
import V2XHub.Priority.ServiceCodec
import V2XHub.Priority.Deduplication
import V2XHub.Priority.BroadcastLimiter
import V2XHub.Spat.Movements
import V2XHub.Validation.ContentHash
import V2XHub.Validation.EmptyStrings
import V2XHub.Validation.NumericStrings
import V2XHub.Validation.MissingFields
import V2XHub.Tmx.ByteStream
import V2XHub.Tmx.FrequencyThrottle
import V2XHub.Tmx.ThreadGroup
import V2XHub.CarmaCloud.Uncompress
import V2XHub.Tmx.BsmConverter
import V2XHub.Streets.OptionalFields
import V2XHub.Streets.SdsmRoundTrip
import V2XHub.ImmediateForward.FanOut
import V2XHub.Flir.UniqueCount
import V2XHub.Pedestrian.TrackLaws
import V2XHub.Pedestrian.Tracks
import V2XHub.Command.SendData
import V2XHub.Command.UploadFiles
import V2XHub.ImmediateForward.Worker
import V2XHub.ImmediateForward.Rows
import V2XHub.ImmediateForward.Configuration
import V2XHub.ImmediateForward.Setup
import V2XHub.ImmediateForward.Reconfiguration
import V2XHub.Lib.JsonExact
import V2XHub.Command.OutputTexts
import V2XHub.Command.Outputs
import V2XHub.Lib.Crc
import V2XHub.Rtcm.Crc24q
import V2XHub.Lib.Occurrence
import V2XHub.Tmx.ExtendedBytes
import V2XHub.Tmx.RawPayload
import V2XHub.Pedestrian.TimRounds
import V2XHub.Lib.Paths
import V2XHub.Tmx.ExecutablePaths
import V2XHub.PortDrayage.Holding
import V2XHub.Lib.Reused
import V2XHub.RsuHealth.Configuration
import V2XHub.Lib.Shell
import V2XHub.Rtcm.NtripResponse
import V2XHub.MessageReceiver.SecuredPackets
import V2XHub.Tmx.CJsonText
import V2XHub.Tmx.CJsonRoundTrip
import V2XHub.Tmx.IvpCodec
import V2XHub.Tmx.ItemView
import V2XHub.Tmx.ApiCalls
import V2XHub.Tmx.Link
import V2XHub.Tmx.ApiRoundTrip
