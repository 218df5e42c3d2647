import NetworkTiming.Benchmark
import NetworkTiming.Library.Machine
import NetworkTiming.PacketParser.Confinement
import NetworkTiming.PacketParser.Datagrams
import NetworkTiming.PacketParser.Ipv6Walk
import NetworkTiming.PacketParser.Layers
import NetworkTiming.PacketParser.RoundTrip
import NetworkTiming.PcapWrapper.DropPath
import NetworkTiming.PcapWrapper.InspectionOrder
import NetworkTiming.Socket.Backlog
import NetworkTiming.Socket.CallOrder
import NetworkTiming.Socket.Measurement
import NetworkTiming.Socket.Readiness
import NetworkTiming.Socket.RemoteAddress
import NetworkTiming.Socket.Segmentation
import NetworkTiming.Socket.ServerDescriptors
import NetworkTiming.Socket.ServerSocket
import NetworkTiming.Socket.TxTimestamp
import NetworkTiming.Socket.WriteTimes
import NetworkTiming.TestServer.TestBed
import NetworkTiming.TimingProxy.ControlStages
import NetworkTiming.TimingProxy.Cuttings
import NetworkTiming.TimingProxy.Durations
import NetworkTiming.TimingProxy.Exceptions
import NetworkTiming.TimingProxy.Forwarding
import NetworkTiming.TimingProxy.Isolation
import NetworkTiming.TimingProxy.KernelMessages
import NetworkTiming.TimingProxy.Passage
import NetworkTiming.TimingProxy.PeekDeadlock
import NetworkTiming.TimingProxy.PortLine
import NetworkTiming.TimingProxy.ProxyTarget
import NetworkTiming.TimingProxy.Responsiveness
import NetworkTiming.TimingProxy.ServiceRefinement
import NetworkTiming.TimingProxy.SessionLoop
import NetworkTiming.TimingProxy.Sessions
import NetworkTiming.TimingProxy.Shutdown
import NetworkTiming.TimingProxy.Targets
import NetworkTiming.TimingProxy.Termination
