import TransisiDB.Config
import TransisiDB.Config.Validate
import TransisiDB.Config.RedisStore
import TransisiDB.Config.RedisKeys
import TransisiDB.Api.Server
import TransisiDB.Api.Deployment
import TransisiDB.Rounding.Decimal
import TransisiDB.Rounding.Engine
import TransisiDB.Rounding.Agreement
import TransisiDB.Sql.Ast
import TransisiDB.Sql.Parser
import TransisiDB.Protocol.Packet
import TransisiDB.Protocol.Bytes
import TransisiDB.Protocol.Framing
import TransisiDB.Protocol.ResultSet
import TransisiDB.Proxy.CircuitBreaker
import TransisiDB.Proxy.CircuitBreakerTrace
import TransisiDB.Proxy.Pool
import TransisiDB.Proxy.Session
import TransisiDB.Proxy.Ownership
import TransisiDB.Proxy.DualWrite
import TransisiDB.Detector
import TransisiDB.DualWrite.Converter
import TransisiDB.DualWrite.Orchestrator
import TransisiDB.Proxy.CommandLoop
import TransisiDB.Proxy.Handshake
import TransisiDB.Proxy.PoolConcurrency
import TransisiDB.Proxy.PoolDrain
import TransisiDB.Proxy.Server
import TransisiDB.Backfill.Progress
import TransisiDB.Backfill.Table
import TransisiDB.Backfill.Worker
import TransisiDB.Backfill.Control
import TransisiDB.Backfill.ControlChannels
import TransisiDB.Replica.Router
import TransisiDB.Cache.Manager
