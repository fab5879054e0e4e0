import MiniPP.Proxy.Callbacks
import MiniPP.Lib.Machine
import MiniPP.Lib.Storage
import MiniPP.Proxy.Session
import MiniPP.Proxy.AuthCache
import MiniPP.Proxy.AuthTable
import MiniPP.Proxy.History
import MiniPP.Proxy.AuthAnswers
import MiniPP.Proxy.AuthRefinement
import MiniPP.Proxy.AuthTiming
import MiniPP.Proxy.Server
import MiniPP.Proxy.ServerInvariant
import MiniPP.Proxy.Guarantees
import MiniPP.Lib.TimedPool
import MiniPP.Relay.Managers
import MiniPP.Relay.Service
import MiniPP.Relay.DeviceTable
import MiniPP.Relay.Contexts
import MiniPP.Relay.Isolation
import MiniPP.Relay.Notifications
import MiniPP.Link.Composition
import MiniPP.Link.Establishment
import MiniPP.Proxy.Targets
import MiniPP.Link.Acceptance
import MiniPP.Lib.GrowArray
import MiniPP.Registry.ServerList
import MiniPP.Registry.Publication
import MiniPP.Registry.Registration
import MiniPP.Registry.Ownership
import MiniPP.Registry.Download
import MiniPP.ServerId.Manager
import MiniPP.ServerId.Uniqueness
import MiniPP.Selector.Devices
import MiniPP.Selector.Regions
import MiniPP.Selector.Offline
import MiniPP.Relay.Ports
import MiniPP.Relay.Reclaim
import MiniPP.Relay.Assertions
import MiniPP.Lib.Lines
import MiniPP.Proxy.Feed
import MiniPP.Proxy.RawSegmentation
import MiniPP.Lib.Script
import MiniPP.Proxy.Conversation
import MiniPP.Proxy.NormalSegmentation
import MiniPP.Proxy.Lists
import MiniPP.Proxy.Timeouts
import MiniPP.Lib.TimedLife
import MiniPP.Lib.TimedRuns
import MiniPP.Relay.Lifetime
import MiniPP.Link.Senders
import MiniPP.Proxy.Closing
import MiniPP.Relay.Gate
import MiniPP.Proxy.Selection
import MiniPP.Proxy.Rejection
import MiniPP.Link.Upload
import MiniPP.Proxy.Teardown
import MiniPP.Relay.Forwarding
import MiniPP.Lib.Codec
import MiniPP.Wire
import MiniPP.Relay.Encoding
import MiniPP.Proxy.ConnectRequest
import MiniPP.Relay.Occupancy
import MiniPP.Relay.Outcome
import MiniPP.Lib.Reader
import MiniPP.Message.Members
import MiniPP.Message.Relay
import MiniPP.Message.Internal
import MiniPP.Message.RoundTrip
import MiniPP.Message.Reports
import MiniPP.Message.RelayList
import MiniPP.Registry.Encoding
import MiniPP.Backend.Challenge
import MiniPP.Backend.Connection
import MiniPP.Backend.Acceptance
import MiniPP.Backend.Pool
import MiniPP.Database.MySql
import MiniPP.Database.Reconnection
import MiniPP.Database.Atomicity
import MiniPP.Lib.Session
import MiniPP.Lib.Buffer
import MiniPP.Proxy.Command
import MiniPP.Proxy.Login
import MiniPP.Proxy.LoginKeys
import MiniPP.Proxy.RequestLine
import MiniPP.Proxy.HeaderRewrite
import MiniPP.Proxy.Credentials
import MiniPP.Proxy.HeaderPrivacy
import MiniPP.Proxy.Accounting
import MiniPP.Proxy.VerdictAge
import MiniPP.Proxy.CacheHits
import MiniPP.Proxy.LocalAudit
import MiniPP.Relay.DataStream
import MiniPP.Lib.Framing
import MiniPP.Packets
import MiniPP.Relay.Receiving
import MiniPP.Link.Receiving
import MiniPP.Backend.Discipline
import MiniPP.Registry.Representation
import MiniPP.Registry.Responses
import MiniPP.ServerId.Release
import MiniPP.Selector.Rotation
import MiniPP.Lib.ExpiryQueue
import MiniPP.Selector.Hysteresis
import MiniPP.Selector.Expiry
import MiniPP.RequestId.Translation
import MiniPP.Lib.BlockCipher
import MiniPP.Crypto.RoundTrip
import MiniPP.PyFormat.Printing
import MiniPP.HashPool.Reconnect
import MiniPP.HashPool.Calls
import MiniPP.HashPool.Invariant
import MiniPP.Coalescing.Requests
import MiniPP.Coalescing.Contract
import MiniPP.Lib.RoundRobin
import MiniPP.ConfigCenter.Runs
import MiniPP.Observer.DeviceTable
import MiniPP.ConfigCenter.Registry
import MiniPP.ConfigCenter.Registration
import MiniPP.Database.Bindings
import MiniPP.Database.Delivery
import MiniPP.RelayLinks.Manager
import MiniPP.RelayLinks.Invariant
import MiniPP.RelayLinks.Registry
import MiniPP.RelayLinks.Schedule
import MiniPP.AuthCacheServer.Invariant
import MiniPP.AuthCacheServer.Contract
import MiniPP.GeoIp.Image
import MiniPP.GeoIp.Lookup
import MiniPP.ConfigCenter.Assignment
import MiniPP.Registry.Clients
import MiniPP.ServerId.Agreement
import MiniPP.ServerId.FormerIds
import MiniPP.Lib.Broadcast
import MiniPP.Link.Download
import MiniPP.Placement.Provenance
import MiniPP.Region.CheckKey
import MiniPP.Region.Provenance
import MiniPP.Directory.Currency
