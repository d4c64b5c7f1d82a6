import Mealy.Lib.BreadthFirst
import Mealy.Lib.Decimal
import Mealy.Lib.EventLog
import Mealy.Lib.FencedLease
import Mealy.Lib.Json
import Mealy.Lib.JsonReader
import Mealy.Lib.Lifecycle
import Mealy.Lib.LineReader
import Mealy.Lib.RecencyWindow
import Mealy.Lib.ReservedGreedy
import Mealy.Lib.Table
import Mealy.Lib.Transaction
import Mealy.Store.Schema
import Mealy.Store.System
import Mealy.Store.Frames
import Mealy.Store.Outbox
import Mealy.Store.DelegationStore
import Mealy.Store.Journal
import Mealy.Store.SessionPort
import Mealy.Store.JournalSystem
import Mealy.Store.Promotion
import Mealy.Store.ContextEpochs
import Mealy.Store.Admission
import Mealy.Store.Schedules
import Mealy.Store.Memory
import Mealy.Store.Adapters
import Mealy.Provider.Sse
import Mealy.Context.Compile
import Mealy.Context.Sources
import Mealy.Context.Validation
import Mealy.Context.Timeline
import Mealy.Context.Compaction
import Mealy.Context.History
import Mealy.Proofs.Leases
import Mealy.Proofs.Ledger
import Mealy.Proofs.LedgerSafety
import Mealy.Proofs.RetryDelays
import Mealy.Proofs.CanonicalJson
import Mealy.Proofs.DurableJson
import Mealy.Proofs.RunEdges
import Mealy.Proofs.WorkGraph
import Mealy.Proofs.Requeue
import Mealy.Proofs.Steering
import Mealy.Proofs.TerminalEffects
import Mealy.Proofs.LoopMoves
import Mealy.Proofs.OutboxDelivery
import Mealy.Proofs.TaskLifecycle
import Mealy.Proofs.DomainLifecycles
import Mealy.Proofs.ResourceClaims
import Mealy.Proofs.Conversation
import Mealy.Proofs.JournalIntegrity
import Mealy.Proofs.DurableInbox
import Mealy.Proofs.ContextContinuity
import Mealy.Proofs.ArtifactSafety
import Mealy.Proofs.TelegramSends
import Mealy.Proofs.ScheduleOnce
import Mealy.Proofs.SseChunking
import Mealy.Proofs.ContextBudget
import Mealy.Proofs.HistoryWindow
import Mealy.Proofs.ValidationRequest
import Mealy.Proofs.HistoryRuns
import Mealy.Proofs.FollowUps
import Mealy.Proofs.CompactedRange
import Mealy.Proofs.Interrupts
import Mealy.Proofs.DelegatedAuthority
import Mealy.Provider.Routing
import Mealy.Lib.Utf8Text
import Mealy.Provider.Progress
import Mealy.Proofs.ProgressPrefix
import Mealy.Store.TaskContract
import Mealy.Executor.Protocol
import Mealy.Executor.Sizes
import Mealy.Executor.ReplaceArguments
import Mealy.Lib.ExactText
import Mealy.Executor.ReplaceFile
import Mealy.Lib.Separated
import Mealy.Executor.Mounts
import Mealy.Context.SessionSearch
import Mealy.Channel.WebhookSignature
import Mealy.Extension.McpServers
import Mealy.Channel.ApprovalNotice
import Mealy.Channel.PlainText
import Mealy.Channel.DiscordBacklog
import Mealy.Executor.Stream
import Mealy.Executor.ToolDescriptor
import Mealy.Executor.WorkspaceRead
import Mealy.Executor.WorkspaceSearch
import Mealy.Executor.Interleavings
import Mealy.Context.SessionTitle
import Mealy.Context.SearchExcerpt
import Mealy.Provider.WebAccess
import Mealy.Proofs.ParkedEffects
import Mealy.Executor.Evidence
import Mealy.Proofs.DelegationHistory
import Mealy.Proofs.TimelinePages
