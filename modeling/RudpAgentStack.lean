import RudpAgentStack.Foundation.Dict
import RudpAgentStack.Common.Constants
import RudpAgentStack.Common.RudpPacket
import RudpAgentStack.Common.RudpReceiver
import RudpAgentStack.Common.RudpSender
import RudpAgentStack.Foundation.BinaryRecord
import RudpAgentStack.Foundation.Framing
import RudpAgentStack.Foundation.Machine
import RudpAgentStack.Foundation.ReliableChannel
import RudpAgentStack.Rudp.ReceiverWindow
import RudpAgentStack.Rudp.SegmentStream
import RudpAgentStack.Rudp.SenderOperations
import RudpAgentStack.Rudp.SenderRuns
import RudpAgentStack.Rudp.SenderWindow
import RudpAgentStack.Rudp.WireFormat
import RudpAgentStack.Rudp.Link
import RudpAgentStack.Rudp.LinkSafety
import RudpAgentStack.Rudp.SequenceSpace
import RudpAgentStack.Rudp.SenderCalls
import RudpAgentStack.Rudp.CongestionControl
import RudpAgentStack.Rudp.Transmissions
import RudpAgentStack.Rudp.SendingDiscipline
import RudpAgentStack.Rudp.ZeroWindow
import RudpAgentStack.Rudp.RoundTripTime
import RudpAgentStack.Rudp.FastRecovery
import RudpAgentStack.Agent.AtMostOnce
import RudpAgentStack.Agent.ClientIsolation
import RudpAgentStack.Rudp.LinkProgress
import RudpAgentStack.Transport.Endpoints
import RudpAgentStack.Transport.SessionSafety
import RudpAgentStack.Agent.ExecutionModes
import RudpAgentStack.Agent.FilterModes
import RudpAgentStack.Agent.SearchModes
import RudpAgentStack.Agent.Answers
import RudpAgentStack.Agent.Confinement
import RudpAgentStack.Agent.DeclaredSize
import RudpAgentStack.Agent.BufferedUploads
import RudpAgentStack.Agent.UploadContents
import RudpAgentStack.Agent.Artifacts
import RudpAgentStack.Client.TaskReports
import RudpAgentStack.Dhcp.LeaseTable
import RudpAgentStack.Dhcp.LeaseDuration
import RudpAgentStack.Dhcp.Exclusion
import RudpAgentStack.Dns.Resolution
import RudpAgentStack.Transport.TcpServer
import RudpAgentStack.Transport.Robustness
import RudpAgentStack.Rudp.FlowControl
import RudpAgentStack.Transport.ClientLoop
import RudpAgentStack.Foundation.OnesComplement
import RudpAgentStack.Rudp.Checksum
import RudpAgentStack.Foundation.Redelivery
import RudpAgentStack.Rudp.FailingDelivery
import RudpAgentStack.Foundation.Noninterference
import RudpAgentStack.Transport.ServerLoop
import RudpAgentStack.Transport.PeerIsolation
import RudpAgentStack.Client.AppendAtMostOnce
import RudpAgentStack.Client.TcpRetries
import RudpAgentStack.Client.UploadRoundTrip
import RudpAgentStack.Agent.ChunkEffects
import RudpAgentStack.Agent.SessionWrites
import RudpAgentStack.Agent.ResentChunks
import RudpAgentStack.Agent.LostChunks
import RudpAgentStack.Agent.SearchCounts
import RudpAgentStack.Agent.InlineResponses
import RudpAgentStack.Agent.AtomicWrites
import RudpAgentStack.Foundation.Chunks
import RudpAgentStack.Agent.StoredDigests
import RudpAgentStack.Agent.ReturnedPlans
import RudpAgentStack.Foundation.Phrases
import RudpAgentStack.Agent.TaskChecks
import RudpAgentStack.Agent.StatusCodes
import RudpAgentStack.Foundation.StoreLog
import RudpAgentStack.Agent.CacheRuns
import RudpAgentStack.Dhcp.Completeness
import RudpAgentStack.Rudp.ChecksumForm
import RudpAgentStack.Foundation.LexicalPaths
import RudpAgentStack.Agent.ValidatedPaths
import RudpAgentStack.Foundation.FairRuns
import RudpAgentStack.Rudp.LinkLiveness
import RudpAgentStack.Transport.SessionLiveness
import RudpAgentStack.Client.SerialExecution
import RudpAgentStack.Client.OwnFile
import RudpAgentStack.Dhcp.Unrefused
import RudpAgentStack.Dns.ResolutionOverRudp
