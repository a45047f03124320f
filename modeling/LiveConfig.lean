import LiveConfig.Backoff
import LiveConfig.Change
import LiveConfig.Client
import LiveConfig.Client.Settings
import LiveConfig.Config
import LiveConfig.Config.Wire
import LiveConfig.Context
import LiveConfig.Context.Wire
import LiveConfig.Criterion
import LiveConfig.Duration
import LiveConfig.Error
import LiveConfig.Evaluation
import LiveConfig.Http.Cache
import LiveConfig.Http.Failover
import LiveConfig.Json.Basic
import LiveConfig.Json.Document
import LiveConfig.Json.Printer
import LiveConfig.KeyMap
import LiveConfig.Listeners
import LiveConfig.Loader
import LiveConfig.LocalValues
import LiveConfig.LogLevel
import LiveConfig.Md5
import LiveConfig.Number.Decimal
import LiveConfig.Number.Double
import LiveConfig.Proofs.Acceptance
import LiveConfig.Proofs.Alike
import LiveConfig.Proofs.Attempts
import LiveConfig.Proofs.Base64
import LiveConfig.Proofs.Buckets
import LiveConfig.Proofs.BulkReads
import LiveConfig.Proofs.CacheContent
import LiveConfig.Proofs.CacheRecency
import LiveConfig.Proofs.CanonicalContexts
import LiveConfig.Proofs.ChangedKeys
import LiveConfig.Proofs.Coercion
import LiveConfig.Proofs.ConcurrentDelivery
import LiveConfig.Proofs.ConcurrentWaits
import LiveConfig.Proofs.ConfigWire
import LiveConfig.Proofs.ContextLayers
import LiveConfig.Proofs.ContextMerge
import LiveConfig.Proofs.Delivery
import LiveConfig.Proofs.Distinct
import LiveConfig.Proofs.Equality
import LiveConfig.Proofs.EventStream
import LiveConfig.Proofs.FailedFetches
import LiveConfig.Proofs.FailedLoads
import LiveConfig.Proofs.Failover
import LiveConfig.Proofs.FirstMatch
import LiveConfig.Proofs.HashIdentity
import LiveConfig.Proofs.Highwater
import LiveConfig.Proofs.IndependentKeys
import LiveConfig.Proofs.Isolation
import LiveConfig.Proofs.JsonText
import LiveConfig.Proofs.JsonValues
import LiveConfig.Proofs.KeyMap
import LiveConfig.Proofs.LocalEvaluation
import LiveConfig.Proofs.LocalFlags
import LiveConfig.Proofs.LocalLayers
import LiveConfig.Proofs.LocalPaths
import LiveConfig.Proofs.Numerals
import LiveConfig.Proofs.Opposites
import LiveConfig.Proofs.PartialBatches
import LiveConfig.Proofs.PublishedChanges
import LiveConfig.Proofs.PublishedLayers
import LiveConfig.Proofs.QualifiedNames
import LiveConfig.Proofs.ReadyGate
import LiveConfig.Proofs.Redelivery
import LiveConfig.Proofs.ReentrantDelivery
import LiveConfig.Proofs.RepeatedMembers
import LiveConfig.Proofs.Replay
import LiveConfig.Proofs.ResponseCache
import LiveConfig.Proofs.ResumePoint
import LiveConfig.Proofs.Retries
import LiveConfig.Proofs.SegmentDepth
import LiveConfig.Proofs.Session
import LiveConfig.Proofs.SnapshotFile
import LiveConfig.Proofs.SnapshotReads
import LiveConfig.Proofs.StreamDelivery
import LiveConfig.Proofs.SyncProtocol
import LiveConfig.Proofs.WaitSchedule
import LiveConfig.Proofs.WeightedChoice
import LiveConfig.Regex.ClassName
import LiveConfig.Regex.Construct
import LiveConfig.Regex.Parser
import LiveConfig.Regex.Pattern
import LiveConfig.Regex.Size
import LiveConfig.Regex.Tally
import LiveConfig.Regex.Words
import LiveConfig.Resolver
import LiveConfig.Rollout
import LiveConfig.SemanticVersion
import LiveConfig.Sharding
import LiveConfig.Stream.Event
import LiveConfig.Stream.Frame
import LiveConfig.Sync
import LiveConfig.Text.Base64
import LiveConfig.Text.Blank
import LiveConfig.Text.Quoted
import LiveConfig.Text.Utf8
import LiveConfig.Unicode.Age
import LiveConfig.Unicode.Case
import LiveConfig.Unicode.Category
import LiveConfig.Unicode.CharSet
import LiveConfig.Unicode.CodeMap
import LiveConfig.Unicode.Direction
import LiveConfig.Unicode.Joining
import LiveConfig.Unicode.Normal
import LiveConfig.Unicode.Property
import LiveConfig.Unicode.Script
import LiveConfig.Unicode.Segmentation
import LiveConfig.Url.Basic
import LiveConfig.Url.Domain
import LiveConfig.Url.DomainMap
import LiveConfig.Url.Host
import LiveConfig.Url.Parser
import LiveConfig.Url.Punycode
import LiveConfig.Value
import LiveConfig.Value.Local
import LiveConfig.Value.Wire
import LiveConfig.Wire.Record
