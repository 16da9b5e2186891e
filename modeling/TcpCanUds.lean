import TcpCanUds.System.CanTiming
import TcpCanUds.Server.SendReports
import TcpCanUds.Server.TcpRoutingSteps
import TcpCanUds.Server.SendRace
import TcpCanUds.Server.SeedUse
import TcpCanUds.Server.UdsWorker
import TcpCanUds.Server.RequestBytes
import TcpCanUds.Server.TransmitConservation
import TcpCanUds.Server.TransmitOrder
import TcpCanUds.System.ResponseCodec
import TcpCanUds.System.DidValues
import TcpCanUds.System.UnlockAgreement
import TcpCanUds.System.Transport
import TcpCanUds.System.Reconnect
import TcpCanUds.System.Unlocking
import TcpCanUds.System.CanPackets
import TcpCanUds.Server.AnnouncedLength
import TcpCanUds.Server.SecurityLevel
import TcpCanUds.Server.WriteNotifier
import TcpCanUds.Server.CanReception
import TcpCanUds.Client.AutoReconnect
import TcpCanUds.Core.Ringbuffer
import TcpCanUds.System.ParserGuards
import TcpCanUds.Client.LossRate
import TcpCanUds.Client.ChannelRouting
import TcpCanUds.Client.BusLoad
import TcpCanUds.Server.EcuReset
import TcpCanUds.Server.DbLogger
import TcpCanUds.Server.StopServer
import TcpCanUds.System.LossyCan
import TcpCanUds.Server.MainOptions
import TcpCanUds.System.TcpService
import TcpCanUds.Server.CanAvailability
import TcpCanUds.System.SessionRequests
import TcpCanUds.System.CanSession
import TcpCanUds.System.CanTester
import TcpCanUds.Client.CanConnection
import TcpCanUds.Server.CanReading
import TcpCanUds.Client.StressTestPlot
