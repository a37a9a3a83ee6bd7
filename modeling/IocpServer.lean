import IocpServer.Library.TransitionSystem
import IocpServer.Library.RingWindow
import IocpServer.Library.Words
import IocpServer.Utility.BoundedFifo
import IocpServer.Utility.QueueInterleaving
import IocpServer.Utility.ProducerConsumer
import IocpServer.Utility.QueueSize
import IocpServer.Network.BasicData
import IocpServer.Network.OverlappedReuse
import IocpServer.Network.OverlappedOwnership
import IocpServer.Network.NetworkManager
import IocpServer.Network.CallPhases
import IocpServer.Network.OverlappedPool
import IocpServer.Network.OverlappedExhaustion
import IocpServer.Network.SocketTracking
import IocpServer.Network.ConnectionListening
import IocpServer.Network.SocketLifetime
import IocpServer.Network.SocketClosing
import IocpServer.Network.PreparedSockets
import IocpServer.ControlServer.Hub
import IocpServer.ControlServer.PacketFraming
import IocpServer.ControlServer.StoredRecords
import IocpServer.ControlServer.JobSerialisation
import IocpServer.ControlServer.RequestDelivery
import IocpServer.ControlServer.LobbySelection
import IocpServer.LobbyServer.ReceivedPackets
import IocpServer.LobbyServer.LobbyReports
import IocpServer.ControlServer.OutgoingBodies
import IocpServer.ControlServer.DispatchSafety
import IocpServer.ControlServer.LobbyDisconnect
import IocpServer.ControlServer.HubWakeup
import IocpServer.LobbyServer.LaunchSettings
import IocpServer.ControlServer.ResponseFlag
import IocpServer.ControlServer.LeastLobby
import IocpServer.ControlServer.EnterableLobby
import IocpServer.ControlServer.AnsweredLobby
import IocpServer.Database.TableIsolation
import IocpServer.ControlServer.VerifiedDispatch
import IocpServer.ControlServer.ServerSettings
import IocpServer.LobbyServer.ReportDelivery
import IocpServer.ControlServer.ServerRuns
import IocpServer.ControlServer.ReceivedOrder
import IocpServer.LobbyServer.ConnectedServers
import IocpServer.LobbyServer.DeliveredReports
import IocpServer.LobbyServer.ListedLobby
