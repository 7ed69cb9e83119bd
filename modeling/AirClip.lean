import AirClip.Agent.AcceptanceCheck
import AirClip.Agent.CalmCheck
import AirClip.Agent.Clipboard
import AirClip.Agent.ConcurrentPairings
import AirClip.Agent.ConnectionStatus
import AirClip.Agent.CrashSafety
import AirClip.Agent.EventChannel
import AirClip.Agent.Keystore
import AirClip.Agent.PairingProgress
import AirClip.Agent.PairingServer
import AirClip.Agent.PairingWindow
import AirClip.Agent.Pause
import AirClip.Agent.PausedClips
import AirClip.Agent.RateLimiter
import AirClip.Agent.RunningAgent
import AirClip.Agent.Serve
import AirClip.Agent.SessionServer
import AirClip.Agent.SimulatedPeer
import AirClip.Agent.Toast
import AirClip.Agent.TrustedPeers
import AirClip.Agent.VisitPairing
import AirClip.Agent.VisitProgress
import AirClip.Agent.VisitSession
import AirClip.Agent.VisitUnderway
import AirClip.Core.CborMap
import AirClip.Core.Client
import AirClip.Core.Crypto
import AirClip.Core.Discovery
import AirClip.Core.Driver
import AirClip.Core.EphemeralSwap
import AirClip.Core.Frame
import AirClip.Core.FrameFormat
import AirClip.Core.Handshake
import AirClip.Core.HonestExchange
import AirClip.Core.HonestPairing
import AirClip.Core.Lifecycle
import AirClip.Core.MacMessages
import AirClip.Core.MapLayer
import AirClip.Core.Messages
import AirClip.Core.Nonces
import AirClip.Core.Pairing
import AirClip.Core.PairingOrder
import AirClip.Core.PairingRun
import AirClip.Core.Protocol
import AirClip.Core.QrLink
import AirClip.Core.Reference
import AirClip.Core.Session
import AirClip.Core.SessionEnd
import AirClip.Core.SessionRun
import AirClip.Core.Stage
import AirClip.Core.StageHistory
import AirClip.Core.StageLog
import AirClip.Core.X25519
import AirClip.Foundation.BytePipe
import AirClip.Foundation.Bytes
import AirClip.Foundation.Cbor
import AirClip.Foundation.CharBoundary
import AirClip.Foundation.Cofactor
import AirClip.Foundation.FileProgram
import AirClip.Foundation.KeyedList
import AirClip.Foundation.LossyFifo
import AirClip.Foundation.Merge
import AirClip.Foundation.RecentHistory
import AirClip.Foundation.Runs
import AirClip.Foundation.SequencedQueue
import AirClip.Foundation.StreamDecoder
import AirClip.Foundation.TextEncoding
import AirClip.Foundation.Throttle
import AirClip.Foundation.Utf8
import AirClip.Foundation.Xml
import AirClip.Phone.ComparedEmoji
import AirClip.Phone.Handle
import AirClip.Phone.PendingHosts
import AirClip.Phone.PersistedPairings
import AirClip.Phone.PhoneApp
import AirClip.Security.Link
import AirClip.Security.Mirror
import AirClip.Security.PairingAgreement
import AirClip.Security.PairingAuthenticity
import AirClip.Security.SecureChannel
import AirClip.Traffic.AnsweredCalls
import AirClip.Traffic.Beam
import AirClip.Traffic.BeamDelivery
import AirClip.Traffic.BeamParties
import AirClip.Traffic.ByteTransport
import AirClip.Traffic.CarriedMessages
import AirClip.Traffic.ClipFrames
import AirClip.Traffic.ClipReceipt
import AirClip.Traffic.Conversation
import AirClip.Traffic.Delivery
import AirClip.Traffic.Flushing
import AirClip.Traffic.FrameSizes
import AirClip.Traffic.FramesInTurn
import AirClip.Traffic.IntegerFields
import AirClip.Traffic.MatchedReplies
import AirClip.Traffic.ReusedConnection
import AirClip.Traffic.StagedPull
