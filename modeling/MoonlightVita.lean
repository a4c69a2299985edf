import MoonlightVita.DiagnosticProbe
import MoonlightVita.EchoServer
import MoonlightVita.EndAroundCarry
import MoonlightVita.FlowProbeFiles
import MoonlightVita.FlowProbeHandles
import MoonlightVita.Ipv4Literal
import MoonlightVita.KeyFile
import MoonlightVita.PacketChecksum
import MoonlightVita.PacketFormat
import MoonlightVita.PacketRoundtrip
import MoonlightVita.PacketTamper
import MoonlightVita.PeerConfigFormat
import MoonlightVita.Progress
import MoonlightVita.ReplayWindow
import MoonlightVita.RingWindow
import MoonlightVita.ShimBackend
import MoonlightVita.ShimCalls
import MoonlightVita.ShimConnect
import MoonlightVita.ShimDescriptors
import MoonlightVita.ShimPoll
import MoonlightVita.ShimSelect
import MoonlightVita.ShimSelectReady
import MoonlightVita.Tai64n
import MoonlightVita.Transition
import MoonlightVita.TunnelDelivery
import MoonlightVita.TunnelFrames
import MoonlightVita.TunnelKeepalive
import MoonlightVita.TunnelLaunchRun
import MoonlightVita.TunnelLedger
import MoonlightVita.TunnelNonce
import MoonlightVita.TunnelRandom
import MoonlightVita.TunnelRejection
import MoonlightVita.TunnelRejectionLog
import MoonlightVita.TunnelRekey
import MoonlightVita.TunnelRoundtrip
import MoonlightVita.TunnelStart
import MoonlightVita.TunnelStartProgress
import MoonlightVita.LogLines
import MoonlightVita.ProbeEnds
import MoonlightVita.TraceLog
