import Zenbedded.ResourceLedger
import Zenbedded.CdrConformance
import Zenbedded.StepSystem
import Zenbedded.DoubleByteBuffer
import Zenbedded.ZenohTransportLifecycle
import Zenbedded.ZenbeddedClient
import Zenbedded.ClientTemplateBounds
import Zenbedded.ClientCalls
import Zenbedded.CommandDecoding
import Zenbedded.DoubleBufferInterleaving
import Zenbedded.SlotOwnership
import Zenbedded.CommandReception
import Zenbedded.StateDoubleBuffering
import Zenbedded.SerializationRoundTrip
import Zenbedded.ZenohTransportReports
import Zenbedded.TopicKeys
import Zenbedded.LivelinessTokens
import Zenbedded.Tier2WireFormat
import Zenbedded.StateSamples
import Zenbedded.CommandActivation
import Zenbedded.FailedActivation
import Zenbedded.PayloadSizes
import Zenbedded.RetryLoops
import Zenbedded.CommandFields
import Zenbedded.CommandConversions
import Zenbedded.EndedHandles
import Zenbedded.OwnerCalls
import Zenbedded.Resampling
import Zenbedded.InterfaceNames
import Zenbedded.CommandFlowCalls
import Zenbedded.LinkEndToEnd
import Zenbedded.SharedTraffic
import Zenbedded.PendulumTier1Runs
import Zenbedded.PendulumTier2Runs
