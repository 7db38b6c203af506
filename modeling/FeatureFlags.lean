import FeatureFlags.Attribute
import FeatureFlags.Binary64
import FeatureFlags.Bucketing
import FeatureFlags.Clause
import FeatureFlags.Client
import FeatureFlags.Condition
import FeatureFlags.Config
import FeatureFlags.Dataset
import FeatureFlags.Detail
import FeatureFlags.Evaluation
import FeatureFlags.EvaluationEvent
import FeatureFlags.EventStream
import FeatureFlags.Failure
import FeatureFlags.Fetch
import FeatureFlags.Flag
import FeatureFlags.FlagsState
import FeatureFlags.Hex
import FeatureFlags.Http
import FeatureFlags.Json.Basic
import FeatureFlags.Json.Document
import FeatureFlags.Json.Number
import FeatureFlags.Json.Reader
import FeatureFlags.Json.Record
import FeatureFlags.Keyed
import FeatureFlags.Murmur3
import FeatureFlags.Proofs.Addresses
import FeatureFlags.Proofs.AllFlags
import FeatureFlags.Proofs.AsciiTables
import FeatureFlags.Proofs.ByDefinition
import FeatureFlags.Proofs.Calls
import FeatureFlags.Proofs.CharSets
import FeatureFlags.Proofs.Choices
import FeatureFlags.Proofs.ClientSessions
import FeatureFlags.Proofs.Conversions
import FeatureFlags.Proofs.Cycles
import FeatureFlags.Proofs.Deletions
import FeatureFlags.Proofs.Dependence
import FeatureFlags.Proofs.Details
import FeatureFlags.Proofs.DigestTexts
import FeatureFlags.Proofs.DoubleParts
import FeatureFlags.Proofs.Doubles
import FeatureFlags.Proofs.EventCut
import FeatureFlags.Proofs.EventLines
import FeatureFlags.Proofs.EventWriting
import FeatureFlags.Proofs.FlagRuns
import FeatureFlags.Proofs.Growth
import FeatureFlags.Proofs.Hashing
import FeatureFlags.Proofs.IntegerAttributes
import FeatureFlags.Proofs.ItemAddresses
import FeatureFlags.Proofs.KeptData
import FeatureFlags.Proofs.LeastMembership
import FeatureFlags.Proofs.ListenerLog
import FeatureFlags.Proofs.Listeners
import FeatureFlags.Proofs.Membership
import FeatureFlags.Proofs.OpenKeys
import FeatureFlags.Proofs.Outcomes
import FeatureFlags.Proofs.Plain
import FeatureFlags.Proofs.PlainNames
import FeatureFlags.Proofs.PollingRun
import FeatureFlags.Proofs.ReachedChoices
import FeatureFlags.Proofs.Records
import FeatureFlags.Proofs.ReplicaAccount
import FeatureFlags.Proofs.ReportHistory
import FeatureFlags.Proofs.Resemblance
import FeatureFlags.Proofs.Rounding
import FeatureFlags.Proofs.SameCourse
import FeatureFlags.Proofs.SentKeys
import FeatureFlags.Proofs.Shares
import FeatureFlags.Proofs.SourceHealth
import FeatureFlags.Proofs.SourceStart
import FeatureFlags.Proofs.StaleMessages
import FeatureFlags.Proofs.StoreFailures
import FeatureFlags.Proofs.StoreHistory
import FeatureFlags.Proofs.StoredItems
import FeatureFlags.Proofs.StreamingActions
import FeatureFlags.Proofs.StreamingData
import FeatureFlags.Proofs.StreamingEnd
import FeatureFlags.Proofs.StreamingRun
import FeatureFlags.Proofs.Termination
import FeatureFlags.Proofs.TypedCalls
import FeatureFlags.Proofs.UnknownMembers
import FeatureFlags.Proofs.UnknownOperators
import FeatureFlags.Proofs.VersionOrder
import FeatureFlags.Proofs.WriteHistory
import FeatureFlags.Proofs.WrittenFlagsStates
import FeatureFlags.Proofs.WrittenSubjects
import FeatureFlags.Regex.ByteRanges
import FeatureFlags.Regex.Machine
import FeatureFlags.Regex.Matcher
import FeatureFlags.Regex.NamedSet
import FeatureFlags.Regex.Parser
import FeatureFlags.Regex.Pattern
import FeatureFlags.Replica
import FeatureFlags.Segment
import FeatureFlags.SemVer
import FeatureFlags.Service
import FeatureFlags.Source.Polling
import FeatureFlags.Source.Streaming
import FeatureFlags.Source.Update
import FeatureFlags.Store
import FeatureFlags.Subject
import FeatureFlags.Timestamp
import FeatureFlags.Tracker
import FeatureFlags.Unicode.Age
import FeatureFlags.Unicode.Blank
import FeatureFlags.Unicode.CaseFolding
import FeatureFlags.Unicode.Category
import FeatureFlags.Unicode.CharSet
import FeatureFlags.Unicode.Composition
import FeatureFlags.Unicode.Direction
import FeatureFlags.Unicode.Joining
import FeatureFlags.Unicode.Normal
import FeatureFlags.Unicode.Property
import FeatureFlags.Unicode.Script
import FeatureFlags.Unicode.Segmentation
import FeatureFlags.Unicode.Table
import FeatureFlags.Url.Basic
import FeatureFlags.Url.Domain
import FeatureFlags.Url.Domain.Punycode
import FeatureFlags.Url.Domain.Table
import FeatureFlags.Url.Host
import FeatureFlags.Url.Parser
import FeatureFlags.Url.Percent
