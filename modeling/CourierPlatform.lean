import CourierPlatform.Proofs.AcceptedOrders
import CourierPlatform.Proofs.AccountResults
import CourierPlatform.Proofs.Anonymity
import CourierPlatform.Proofs.ApiProcess
import CourierPlatform.Proofs.AsyncTriples
import CourierPlatform.Proofs.Attribution
import CourierPlatform.Proofs.BacklogDone
import CourierPlatform.Proofs.BacklogDrain
import CourierPlatform.Proofs.BatchAccounting
import CourierPlatform.Proofs.BatchRecords
import CourierPlatform.Proofs.BatchReport
import CourierPlatform.Proofs.BulkEquivalence
import CourierPlatform.Proofs.BulkOutbox
import CourierPlatform.Proofs.CacheEquivalence
import CourierPlatform.Proofs.CacheHistory
import CourierPlatform.Proofs.CallAccounts
import CourierPlatform.Proofs.CallSubjects
import CourierPlatform.Proofs.Cancellation
import CourierPlatform.Proofs.CancelledAwb
import CourierPlatform.Proofs.CancelRecords
import CourierPlatform.Proofs.ClientSessions
import CourierPlatform.Proofs.ClientView
import CourierPlatform.Proofs.Concurrency
import CourierPlatform.Proofs.Confinement
import CourierPlatform.Proofs.Convergence
import CourierPlatform.Proofs.CoreTables
import CourierPlatform.Proofs.CourierTraffic
import CourierPlatform.Proofs.CycleAttempts
import CourierPlatform.Proofs.Exchanges
import CourierPlatform.Proofs.Idempotency
import CourierPlatform.Proofs.Lifecycle
import CourierPlatform.Proofs.Logins
import CourierPlatform.Proofs.LoopBounds
import CourierPlatform.Proofs.LostReplies
import CourierPlatform.Proofs.Manifest
import CourierPlatform.Proofs.OrderViews
import CourierPlatform.Proofs.Partner
import CourierPlatform.Proofs.Polls
import CourierPlatform.Proofs.Provenance
import CourierPlatform.Proofs.Quiescence
import CourierPlatform.Proofs.Rebooking
import CourierPlatform.Proofs.Recovery
import CourierPlatform.Proofs.Registration
import CourierPlatform.Proofs.RegistryLookup
import CourierPlatform.Proofs.ReplyShapes
import CourierPlatform.Proofs.RequestOutcomes
import CourierPlatform.Proofs.ResolvedPolls
import CourierPlatform.Proofs.Responses
import CourierPlatform.Proofs.Resubmission
import CourierPlatform.Proofs.RetryBudget
import CourierPlatform.Proofs.RetryContract
import CourierPlatform.Proofs.RetryCount
import CourierPlatform.Proofs.RetryJitter
import CourierPlatform.Proofs.ScanRecording
import CourierPlatform.Proofs.Served
import CourierPlatform.Proofs.ServerMoves
import CourierPlatform.Proofs.Serving
import CourierPlatform.Proofs.ShippedAdapters
import CourierPlatform.Proofs.SingleFlight
import CourierPlatform.Proofs.SingleLeader
import CourierPlatform.Proofs.StatusOrder
import CourierPlatform.Proofs.StatusText
import CourierPlatform.Proofs.Submissions
import CourierPlatform.Proofs.TokenRefresh
import CourierPlatform.Proofs.Tokens
import CourierPlatform.Proofs.TrackingBodies
import CourierPlatform.Proofs.TrackingRace
import CourierPlatform.Proofs.WorkerProcess
import CourierPlatform.Proofs.WorkerRecord
