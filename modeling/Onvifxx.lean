import Onvifxx.Library.Execution
import Onvifxx.Library.Run
import Onvifxx.Library.GrowVector
import Onvifxx.Library.HexFormat
import Onvifxx.Library.SerialLog
import Onvifxx.Library.Causality
import Onvifxx.Library.Merge
import Onvifxx.Library.ByteStream
import Onvifxx.Library.CppString
import Onvifxx.Library.PathName
import Onvifxx.Library.Content
import Onvifxx.Library.Loop
import Onvifxx.Library.Tokens
import Onvifxx.Library.Insertion
import Onvifxx.Library.FormatText
import Onvifxx.Library.ByteOrder
import Onvifxx.Library.CheckedInt
import Onvifxx.Library.Schrage
import Onvifxx.Construction.RemoteDiscovery
import Onvifxx.Construction.SoapTypes
import Onvifxx.Construction.Codec
import Onvifxx.Construction.RandUuid
import Onvifxx.Construction.Wsa
import Onvifxx.Construction.Matches
import Onvifxx.Construction.Service
import Onvifxx.Construction.Proxy
import Onvifxx.Construction.System
import Onvifxx.Construction.Dispatch
import Onvifxx.Construction.Network
import Onvifxx.Construction.Sock
import Onvifxx.Construction.Socket
import Onvifxx.Construction.Patch
import Onvifxx.Construction.Connection
import Onvifxx.Construction.Matching
import Onvifxx.Construction.Log
import Onvifxx.Construction.CallLog
import Onvifxx.Construction.Daemon
import Onvifxx.Construction.Endpoint
import Onvifxx.Construction.Hooks
import Onvifxx.Proof.RoundTrip
import Onvifxx.Proof.AppSequence
import Onvifxx.Proof.ReplyObjects
import Onvifxx.Proof.NullSafety
import Onvifxx.Proof.RemoteProbe
import Onvifxx.Proof.ReplyHeader
import Onvifxx.Proof.SocketStream
import Onvifxx.Proof.HeaderBuilders
import Onvifxx.Proof.UuidForm
import Onvifxx.Proof.ByeIdentity
import Onvifxx.Proof.TypePrefixes
import Onvifxx.Proof.TokenMatching
import Onvifxx.Proof.NarrowProbe
import Onvifxx.Proof.LogText
import Onvifxx.Proof.StopProtocol
import Onvifxx.Proof.RequestRelease
import Onvifxx.Proof.UrlSplit
import Onvifxx.Proof.AddressOrder
import Onvifxx.Proof.TransportState
import Onvifxx.Proof.RandomStep
import Onvifxx.Proof.PrefixLoop
import Onvifxx.Proof.NetworkSafety
import Onvifxx.Proof.NetworkTrace
import Onvifxx.Proof.NetworkNumbers
import Onvifxx.Proof.DaemonLife
import Onvifxx.Proof.DaemonReports
import Onvifxx.Proof.DaemonAnswers
import Onvifxx.Proof.SocketLife
import Onvifxx.Proof.SocketLeaks
import Onvifxx.Proof.ImportPatch
import Onvifxx.Proof.UuidCollision
import Onvifxx.Proof.NetworkRelation
import Onvifxx.Proof.LoggedCalls
import Onvifxx.Proof.NetworkAnswers
