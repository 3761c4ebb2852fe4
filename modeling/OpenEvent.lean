import OpenEvent.Lib.SortedMap
import OpenEvent.Lib.Bytes
import OpenEvent.Lib.LabelledRun
import OpenEvent.Lib.Fallible
import OpenEvent.Lib.Decimal
import OpenEvent.Lib.Rfc8259
import OpenEvent.Lib.JsonText
import OpenEvent.Lib.Double
import OpenEvent.Lib.Slice
import OpenEvent.Lib.Wire
import OpenEvent.Lib.Base64
import OpenEvent.Status
import OpenEvent.Encoding
import OpenEvent.Records
import OpenEvent.Externals
import OpenEvent.Storage.Database
import OpenEvent.Storage.Validators
import OpenEvent.Storage.UnifiedStorage
import OpenEvent.Lib.DurableDirectory
import OpenEvent.Storage.ObjectFileStore
import OpenEvent.Core.Payloads
import OpenEvent.Core.Checks
import OpenEvent.Core.Mutations
import OpenEvent.Core.WriteObject
import OpenEvent.Core.Reads
import OpenEvent.Server
import OpenEvent.Reference
import OpenEvent.Subscriptions.SharedSnapshot
import OpenEvent.Subscriptions.Execution
import OpenEvent.Subscriptions.RunSubscription
import OpenEvent.Store
import OpenEvent.Refinement.Setters
import OpenEvent.Refinement.Getters
import OpenEvent.ChannelEvents
import OpenEvent.PayloadTexts
import OpenEvent.Effects
import OpenEvent.Coherence
import OpenEvent.Refinement.Mutations
import OpenEvent.Refinement.Objects
import OpenEvent.Refinement.Reported
import OpenEvent.Refinement.BatchWrites
import OpenEvent.Refinement.Sections
import OpenEvent.Refinement.Simulation
import OpenEvent.Reachable
import OpenEvent.MessageLog
import OpenEvent.Subscriptions.Commits
import OpenEvent.Subscriptions.ProcessInvariant
import OpenEvent.ObjectFiles
import OpenEvent.ObjectInvariant
import OpenEvent.Refinement.ObjectReads
import OpenEvent.Refinement.Scans
import OpenEvent.Refinement.ChannelList
import OpenEvent.Refinement.Statuses
import OpenEvent.Guarantees.LogAndIndexes
import OpenEvent.Guarantees.Publishing
import OpenEvent.Guarantees.Channels
import OpenEvent.Guarantees.CrashSafety
import OpenEvent.Guarantees.ObjectWrites
import OpenEvent.Guarantees.ObjectReferences
import OpenEvent.Guarantees.NoCorruption
import OpenEvent.Credentials
import OpenEvent.Refinement.ScanTrace
import OpenEvent.Refinement.ReadRights
import OpenEvent.Refinement.Pages
import OpenEvent.Refinement.HiddenChannels
import OpenEvent.Guarantees.ScanSafety
import OpenEvent.Guarantees.PageLaw
import OpenEvent.Guarantees.Visibility
import OpenEvent.Guarantees.PrivateChannels
import OpenEvent.Guarantees.RecoverySafety
import OpenEvent.Guarantees.ObjectCapabilities
import OpenEvent.Guarantees.CommitStatuses
import OpenEvent.Guarantees.AutoSeq
import OpenEvent.Guarantees.CommitCredentials
import OpenEvent.Subscriptions.Revocation
import OpenEvent.Guarantees.SubscriptionFreshness
import OpenEvent.Guarantees.UuidOwnership
import OpenEvent.Subscriptions.StreamInvariant
import OpenEvent.Guarantees.SubscriptionStream
import OpenEvent.Guarantees.TokenEncodings
import OpenEvent.Guarantees.SystemPayloads
import OpenEvent.Guarantees.BatchedLookups
import OpenEvent.Guarantees.MemberSets
import OpenEvent.Guarantees.Counters
import OpenEvent.Guarantees.KeyLayout
import OpenEvent.Storage.RangeReads
import OpenEvent.Guarantees.PartialIo
import OpenEvent.Lib.Interruptible
import OpenEvent.Lib.DirectoryTree
import OpenEvent.Storage.Directories
import OpenEvent.Storage.Recovery
import OpenEvent.Guarantees.DurableLinks
import OpenEvent.Guarantees.OpenFootprint
import OpenEvent.Lib.OneShotLatch
import OpenEvent.GrpcServices
import OpenEvent.Guarantees.FatalLatch
import OpenEvent.ServerMain
import OpenEvent.ShutdownInvariant
import OpenEvent.Guarantees.OrderlyShutdown
import OpenEvent.Subscriptions.RefreshProgress
import OpenEvent.Guarantees.SubscriptionProgress
import OpenEvent.Refinement.Diagnostics
import OpenEvent.Guarantees.FatalLog
import OpenEvent.Guarantees.PagedReading
