import BacnetStack.Binary32
import BacnetStack.WrappingClock
import BacnetStack.EventRun
import BacnetStack.ChangeHistory
import BacnetStack.PriorityMap
import BacnetStack.ProtocolTypes
import BacnetStack.ProtocolReader
import BacnetStack.ProtocolValueDecode
import BacnetStack.ProtocolRequestDecode
import BacnetStack.ProtocolDispatch
import BacnetStack.ProtocolWriter
import BacnetStack.ProtocolRequestBuild
import BacnetStack.ProtocolReadAck
import BacnetStack.CommandPriority
import BacnetStack.ServerObjects
import BacnetStack.ServerState
import BacnetStack.ServerReadProperty
import BacnetStack.ServerReadReply
import BacnetStack.ServerObjectProperties
import BacnetStack.ServerRegistration
import BacnetStack.ServerWriteProperty
import BacnetStack.ServerCommandCalls
import BacnetStack.ServerCommandEvents
import BacnetStack.ServerCov
import BacnetStack.ServerPoll
import BacnetStack.ServerCovScan
import BacnetStack.ServerCovStep
import BacnetStack.ServerCovHistory
import BacnetStack.ServerCovLedger
import BacnetStack.ServerCovChange
import BacnetStack.ServerCovRetransmission
import BacnetStack.ServerCovRetry
import BacnetStack.ServerCovAcknowledgement
import BacnetStack.ServerCovInvokeIds
import BacnetStack.ServerCovTable
import BacnetStack.ServerCovLifetime
import BacnetStack.ServerCovFairness
import BacnetStack.ServerCovCancellation
import BacnetStack.ServerDispatch
import BacnetStack.ServerExistence
import BacnetStack.ServerPropertyContent
import BacnetStack.ServerObjectList
import BacnetStack.ServerReplyTotality
import BacnetStack.ServerPropertyReads
import BacnetStack.ServerPropertyList
import BacnetStack.ServerCovLiveness
import BacnetStack.ServerCommandTable
import BacnetStack.ServerCommandRefinement
import BacnetStack.BoundedQueue
import BacnetStack.ProtocolResponseDecode
import BacnetStack.ProtocolNumbers
import BacnetStack.ProtocolValueCodec
import BacnetStack.ProtocolRequestCodec
import BacnetStack.ProtocolWriteCodec
import BacnetStack.ProtocolListCodec
import BacnetStack.ProtocolCovCodec
import BacnetStack.ProtocolBuilderBounds
import BacnetStack.ProtocolCovBounds
import BacnetStack.FaultAvoidance
import BacnetStack.ProtocolReaderBounds
import BacnetStack.ProtocolDecoderBounds
import BacnetStack.ProtocolAckContent
import BacnetStack.ProtocolAckCodec
import BacnetStack.Client
import BacnetStack.ClientPropertyCache
import BacnetStack.ClientSession
import BacnetStack.ClientSubscription
import BacnetStack.ClientRead
import BacnetStack.ClientScan
import BacnetStack.ClientCalls
import BacnetStack.ClientTraffic
import BacnetStack.ClientScanCoverage
import BacnetStack.RingWindow
import BacnetStack.ClientCacheHistory
import BacnetStack.ClientCacheOperations
import BacnetStack.ClientQuiet
import BacnetStack.ClientResponses
import BacnetStack.ClientSteps
import BacnetStack.ClientCallSteps
import BacnetStack.ClientRuns
import BacnetStack.ClientExclusive
import BacnetStack.ClientStop
import BacnetStack.ClientScanCompleteness
import BacnetStack.ClientCovRenewal
import BacnetStack.ClientCovLedger
import BacnetStack.ClientAcknowledgement
import BacnetStack.ClientTransactions
import BacnetStack.ClientCovRouting
import BacnetStack.ClientCovDelivery
import BacnetStack.ClientResponseRuns
import BacnetStack.Binary32Rounding
import BacnetStack.AnalogValueLimits
import BacnetStack.ProtocolReplyKinds
import BacnetStack.ClientPropertyList
import BacnetStack.ProtocolReaderPrefix
import BacnetStack.ProtocolNpdu
import BacnetStack.ProtocolListEnd
import BacnetStack.ProtocolValuePrefix
import BacnetStack.ProtocolTrailingOctets
import BacnetStack.ClientWriteErrors
import BacnetStack.ClientCacheRuns
import BacnetStack.ClientValueChanges
import BacnetStack.ServerCovTimeRemaining
import BacnetStack.ServerCovSendFailure
import BacnetStack.ServerCovReuse
import BacnetStack.ClientReplySource
import BacnetStack.ClientPropertyListAgreement
import BacnetStack.ClientObjectListAgreement
import BacnetStack.ServerLossyLink
import BacnetStack.ClientPollForms
import BacnetStack.LoggerTags
import BacnetStack.ClientSubscriptionTimeout
import BacnetStack.ProtocolIAmCodec
import BacnetStack.ClientObjectStatus
import BacnetStack.ClientScanChain
import BacnetStack.ClientScanTally
import BacnetStack.ClientScanRuns
import BacnetStack.Binary32Error
import BacnetStack.ProtocolRealText
import BacnetStack.ClientCovTally
import BacnetStack.ServerReplies
import BacnetStack.ServerCovOrigin
import BacnetStack.CovProvenance
import BacnetStack.ClientCommandWrites
import BacnetStack.ClientReadAll
import BacnetStack.ServerReadReports
import BacnetStack.ClientReadAllAgreement
import BacnetStack.NetworkDiscovery
import BacnetStack.RoundRobin
import BacnetStack.ClientTurns
import BacnetStack.Throttle
import BacnetStack.LoggerRecords
import BacnetStack.LoggerOutputs
import BacnetStack.StandingFacts
import BacnetStack.SlotTable
import BacnetStack.ServerCovSubscribers
import BacnetStack.ServerCovConvergence
import BacnetStack.ServerObjectConfiguration
import BacnetStack.Binary32Order
import BacnetStack.ServerInputScale
import BacnetStack.ServerRegistrationForms
