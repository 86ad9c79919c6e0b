import TgWsProxy.Crypto
import TgWsProxy.Utils
import TgWsProxy.Lib.Framing
import TgWsProxy.Lib.Runs
import TgWsProxy.Obfuscation
import TgWsProxy.Python.Handshake
import TgWsProxy.Rust.Handshake
import TgWsProxy.Transport
import TgWsProxy.Python.MsgSplitter
import TgWsProxy.Rust.MsgSplitter
import TgWsProxy.Python.Bridge
import TgWsProxy.Rust.FakeTlsStream
import TgWsProxy.Python.DomainRefresh
import TgWsProxy.Python.TrayLifecycle
import TgWsProxy.Python.Pool
import TgWsProxy.Python.PoolLookup
import TgWsProxy.Lib.ExactReader
import TgWsProxy.Rust.RawWebSocket
import TgWsProxy.Rust.Bridge
import TgWsProxy.Rust.BridgeDelivery
import TgWsProxy.Lib.Chunks
import TgWsProxy.Rust.FakeTlsWriter
import TgWsProxy.Python.FakeTlsStream
import TgWsProxy.Python.RawWebSocket
import TgWsProxy.FrameCodec
import TgWsProxy.Python.WebSocketWire
import TgWsProxy.Fragmentation
import TgWsProxy.Rust.TcpFallback
import TgWsProxy.Lib.Program
import TgWsProxy.Session
import TgWsProxy.Python.Session
import TgWsProxy.Rust.Session
import TgWsProxy.SessionBridge
import TgWsProxy.Rust.BridgeUpstream
import TgWsProxy.Rust.ProtocolSplit
import TgWsProxy.ClientHello
import TgWsProxy.Python.ClientHello
import TgWsProxy.ClientInit
import TgWsProxy.Rust.ClientHello
import TgWsProxy.Rust.ClientInit
import TgWsProxy.Rust.ShortReads
import TgWsProxy.Python.ClientInit
import TgWsProxy.HelloRecord
import TgWsProxy.Rust.HelloFraming
import TgWsProxy.Python.HelloFraming
import TgWsProxy.HelloFraming
import TgWsProxy.Python.BridgeTail
import TgWsProxy.Rust.BridgeTail
import TgWsProxy.Lib.Slots
import TgWsProxy.Python.PoolReset
import TgWsProxy.Rust.Pool
import TgWsProxy.Handlers
import TgWsProxy.Blacklist
import TgWsProxy.FallbackOrder
import TgWsProxy.Python.UserDomains
import TgWsProxy.Python.WorkerShuffle
import TgWsProxy.Lib.Text
import TgWsProxy.Rust.ProxyConfig
import TgWsProxy.Rust.Settings
import TgWsProxy.Lib.Dictionary
import TgWsProxy.Python.TrayConfig
import TgWsProxy.Python.TraySettings
import TgWsProxy.Rust.HostileFrames
import TgWsProxy.HelloSignatures
import TgWsProxy.ServerHello
import TgWsProxy.Python.ServerHello
import TgWsProxy.Rust.ServerHello
import TgWsProxy.ServerFlight
import TgWsProxy.RecvUntilClose
import TgWsProxy.Rust.BridgeAccounting
import TgWsProxy.Python.WebSocketClose
import TgWsProxy.Python.Balancer
import TgWsProxy.Python.CfproxyDomains
import TgWsProxy.Rust.Balancer
import TgWsProxy.Rust.CfDomains
import TgWsProxy.ClockedHandlers
import TgWsProxy.Cooldown
import TgWsProxy.Lib.PaddedOrder
import TgWsProxy.Python.VersionOrder
import TgWsProxy.Python.UpdateCheck
import TgWsProxy.Python.InstanceLock
import TgWsProxy.Python.ApplyConfig
import TgWsProxy.Python.SecretGrammar
import TgWsProxy.DomainLists
import TgWsProxy.Python.MaskingRelay
import TgWsProxy.Python.ConnectionCount
import TgWsProxy.EmptyRecords
import TgWsProxy.XorMask
import TgWsProxy.Lib.KeyedCipher
import TgWsProxy.Python.DomainDecoding
import TgWsProxy.Python.Tunnel
import TgWsProxy.Python.BridgeEnd
import TgWsProxy.HttpHead
import TgWsProxy.Python.FirstBytes
import TgWsProxy.Python.Upgrade
import TgWsProxy.Rust.Upgrade
import TgWsProxy.Upgrade
import TgWsProxy.Python.TcpFallback
import TgWsProxy.Lib.Ledger
import TgWsProxy.Python.PoolBooks
import TgWsProxy.Python.Shutdown
import TgWsProxy.Rust.Upstream
import TgWsProxy.Rust.FirstBytes
import TgWsProxy.PlainClient
import TgWsProxy.Lib.Hex
import TgWsProxy.Links
import TgWsProxy.DomainSearch
