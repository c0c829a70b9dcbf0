import ChatIndex.Text.Space
import ChatIndex.Text.Quoted
import ChatIndex.KeyMap
import ChatIndex.Binary64.Shortest
import ChatIndex.Json.Printer
import ChatIndex.Json.Record
import ChatIndex.Change
import ChatIndex.Document
import ChatIndex.Engine.Memory
import ChatIndex.ReadModel.Tables
import ChatIndex.Program
import ChatIndex.Config
import ChatIndex.Sync
import ChatIndex.Bootstrap
import ChatIndex.Search
import ChatIndex.ServiceError
import ChatIndex.Http.Routes
import ChatIndex.Service
import ChatIndex.World
import ChatIndex.Text.Base64
import ChatIndex.Url
import ChatIndex.EngineClient
import ChatIndex.Database
import ChatIndex.Proofs.Exchange
import ChatIndex.Proofs.Documents
import ChatIndex.Proofs.Handling
import ChatIndex.Proofs.Requests
import ChatIndex.Proofs.Privacy
import ChatIndex.Proofs.EncryptedEvents
import ChatIndex.Proofs.Backfill
import ChatIndex.Proofs.History
import ChatIndex.Proofs.Agreement
import ChatIndex.Proofs.Visibility
import ChatIndex.Proofs.Effects
import ChatIndex.Proofs.Redelivery
import ChatIndex.Proofs.Rerun
import ChatIndex.Proofs.Interleaving
import ChatIndex.Proofs.Readability
import ChatIndex.Proofs.Validation
import ChatIndex.Proofs.Redaction
import ChatIndex.Proofs.Parallel
import ChatIndex.Proofs.FreshReads
import ChatIndex.Proofs.Transitions
import ChatIndex.Proofs.Preservation
import ChatIndex.Proofs.Failures
import ChatIndex.Proofs.NamedRooms
import ChatIndex.Proofs.ForeignHits
import ChatIndex.Proofs.Callers
import ChatIndex.Proofs.Batches
import ChatIndex.Proofs.CurrentMessages
import ChatIndex.Proofs.Regexp
import ChatIndex.Proofs.LiteralPatterns
import ChatIndex.Proofs.PatternLength
import ChatIndex.Proofs.BulkReplies
import ChatIndex.Proofs.Alarms
import ChatIndex.Proofs.FallbackEdits
import ChatIndex.Proofs.RedactedEdits
import ChatIndex.Proofs.BlankNames
import ChatIndex.Proofs.AppliedMessages
import ChatIndex.Proofs.HitLists
import ChatIndex.Proofs.Enrichment
import ChatIndex.Proofs.AdminTokens
import ChatIndex.Proofs.StoredRows
import ChatIndex.Proofs.Settings
import ChatIndex.Proofs.BulkBodies
import ChatIndex.Proofs.EventRecords
import ChatIndex.Proofs.HiddenDetails
