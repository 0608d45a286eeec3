import SslRosBridge.Log2bag.TruncatedLog
import SslRosBridge.Log2bag.SkippedEntries
import SslRosBridge.Log2bag.EndOfLog
import SslRosBridge.Log2bag.EntryCounts
import SslRosBridge.Log2bag.FailingSource
import SslRosBridge.MessageConversion.Presence
import SslRosBridge.GameControllerBridge.RefereeStream
import SslRosBridge.GameControllerBridge.Reconnect
import SslRosBridge.GameControllerBridge.RequestStream
import SslRosBridge.GameControllerBridge.Configuration
import SslRosBridge.GameControllerBridge.Exceptions
import SslRosBridge.GameControllerBridge.ReplyStream
import SslRosBridge.GameControllerBridge.Correlation
import SslRosBridge.GameControllerBridge.BridgeFlag
import SslRosBridge.GameControllerBridge.Discovery
import SslRosBridge.MessageConversion.RefereeFidelity
import SslRosBridge.MessageConversion.DesignatedPosition
import SslRosBridge.MessageConversion.VisionFidelity
import SslRosBridge.GameControllerBridge.FailedConnect
import SslRosBridge.GameControllerBridge.ReconnectGaps
import SslRosBridge.Log2bag.Growing
import SslRosBridge.Log2bag.Main
import SslRosBridge.Log2bag.Replay
import SslRosBridge.GameControllerBridge.Convergence
import SslRosBridge.GameControllerBridge.Blocking
import SslRosBridge.Core.SendTo
import SslRosBridge.Core.GetIpAddresses
