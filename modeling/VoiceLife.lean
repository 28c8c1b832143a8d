import VoiceLife.Lib.CInt
import VoiceLife.Lib.Gregorian
import VoiceLife.Lib.FirstHit
import VoiceLife.Lib.IdTable
import VoiceLife.Lib.Run
import VoiceLife.Lib.OrderedIndex
import VoiceLife.Lib.CheckedInt
import VoiceLife.Lib.DecimalText
import VoiceLife.Contracts.Status
import VoiceLife.Schedule.Calendar
import VoiceLife.Schedule.Types
import VoiceLife.Schedule.Commands
import VoiceLife.Schedule.Factory
import VoiceLife.Schedule.RecurrencePlanner
import VoiceLife.Schedule.RuleHelpers
import VoiceLife.Schedule.RecurrenceSpec
import VoiceLife.Schedule.RecurrenceTheorems
import VoiceLife.Schedule.NextOccurrence
import VoiceLife.Schedule.CheckedPlanner
import VoiceLife.Schedule.PlannerRange
import VoiceLife.Schedule.Reanchoring
import VoiceLife.Schedule.TimeRules
import VoiceLife.Schedule.QueryScore
import VoiceLife.Storage.MemoryScheduleRepository
import VoiceLife.Storage.RepositoryLemmas
import VoiceLife.Schedule.ScheduleService
import VoiceLife.Schedule.RuleService
import VoiceLife.Schedule.ServiceLemmas
import VoiceLife.Schedule.ServiceCalls
import VoiceLife.Schedule.DoubleBooking
import VoiceLife.Schedule.TimeOrder
import VoiceLife.Schedule.Skips
import VoiceLife.Schedule.Occurrences
import VoiceLife.Schedule.RuleQuery
import VoiceLife.Mcp.ToolText
import VoiceLife.Mcp.ScheduleQuery
import VoiceLife.Mcp.RuleInput
import VoiceLife.Timing.TimingTask
import VoiceLife.Timing.TimingSpec
import VoiceLife.Timing.TimingTheorems
import VoiceLife.Storage.MemoryReminderTaskRepository
import VoiceLife.Reminder.ReminderService
import VoiceLife.Reminder.ReminderCalls
import VoiceLife.Lib.KeyTable
import VoiceLife.Lib.JsText
import VoiceLife.Lib.JsonValue
import VoiceLife.Gateway.CanonicalJson
import VoiceLife.Gateway.DateTime
import VoiceLife.Gateway.Models
import VoiceLife.Gateway.InMemory
import VoiceLife.Gateway.Notification
import VoiceLife.Gateway.Dispatch
import VoiceLife.Gateway.Actions
import VoiceLife.Gateway.Machine
import VoiceLife.Gateway.ActionLemmas
import VoiceLife.Gateway.DeliveryLemmas
import VoiceLife.Gateway.Effects
import VoiceLife.Gateway.Soundness
import VoiceLife.Gateway.StrandedDeliveries
import VoiceLife.Gateway.ActionEffects
import VoiceLife.Gateway.TerminalActions
import VoiceLife.Gateway.ReminderFacts
import VoiceLife.Gateway.ActionTokens
import VoiceLife.Gateway.Submissions
import VoiceLife.Gateway.Ownership
import VoiceLife.Storage.RebuildAgreement
import VoiceLife.Storage.QueryAgreement
import VoiceLife.Im.ActionReplays
import VoiceLife.Voice.SessionRuns
import VoiceLife.Voice.SpeechTurns
import VoiceLife.Voice.RequestedSpeech
import VoiceLife.Voice.Disconnects
import VoiceLife.Gateway.InboundEvents
import VoiceLife.Gateway.PlatformDispatch
import VoiceLife.Gateway.Pairing
import VoiceLife.Gateway.PairingUnique
import VoiceLife.Gateway.ActionTransactions
import VoiceLife.Gateway.LostUpdates
import VoiceLife.Reminder.AcknowledgeFailures
import VoiceLife.Reminder.RecentActions
import VoiceLife.Mcp.UpdateRule
import VoiceLife.Im.BindingPolling
import VoiceLife.Lib.Rfc8259
import VoiceLife.Gateway.ReReports
import VoiceLife.Gateway.ReceiptOrder
import VoiceLife.Im.LateCommands
import VoiceLife.Im.PairingRuns
import VoiceLife.Storage.SqliteSchema
import VoiceLife.Contracts.IsoDateTime
import VoiceLife.Im.IsoReaders
import VoiceLife.Lib.Framing
import VoiceLife.Im.SseDecoder
import VoiceLife.Gateway.HubRuns
import VoiceLife.Schedule.ScheduleSnapshot
import VoiceLife.Im.ResultWire
import VoiceLife.Lib.Transducer
import VoiceLife.Linx.WebSocketAssembler
import VoiceLife.Lib.Bitmap
import VoiceLife.Voice.AudioPayload
import VoiceLife.Voice.PcmFrameAssembler
import VoiceLife.Lib.FrameSync
import VoiceLife.Im.UsbSerialFrames
import VoiceLife.Lib.Slots
import VoiceLife.Runtime.QueueFacts
import VoiceLife.Lib.StringifyTexts
import VoiceLife.Gateway.NotificationIntents
import VoiceLife.Voice.WakeGate
import VoiceLife.Runtime.ToolsListing
import VoiceLife.Gateway.ActionStream
import VoiceLife.Mcp.AdvertisedCalls
import VoiceLife.Schedule.CalendarConversions
import VoiceLife.Gateway.WechatApiResponse
import VoiceLife.Gateway.DeviceManagement
import VoiceLife.Gateway.DeviceCredentials
import VoiceLife.Gateway.DeviceOwners
import VoiceLife.Im.CommandStream
import VoiceLife.Linx.HandshakeIsolation
import VoiceLife.Reminder.ExactlyOnce
import VoiceLife.Reminder.ChainRuns
import VoiceLife.Reminder.StartRestores
import VoiceLife.Timing.NoLostWakeups
import VoiceLife.Storage.ReminderTaskAgreement
