import HftEngine.Lib.Transition
import HftEngine.Core.BatchWriter
import HftEngine.Core.RobustConsumer
import HftEngine.Storage.FlushBuffers
import HftEngine.Ingestion.Expiry
import HftEngine.Lib.KeyedWrites
import HftEngine.Realtime.ProcessBatch
import HftEngine.Lib.Python.Value
import HftEngine.Lib.Python.Number
import HftEngine.Lib.Avro
import HftEngine.Processor.GlobalContext
import HftEngine.Processor.OptionChain
import HftEngine.Lib.Json.Number
import HftEngine.Lib.Json.Read
import HftEngine.Lib.Json.Write
import HftEngine.Ingestion.RawMessage
import HftEngine.Pipeline.AvroMap
import HftEngine.Processor.EnrichedMessage
import HftEngine.Schemas.MarketDataEnriched
import HftEngine.Storage.ProcessMessage
import HftEngine.Pipeline.EnrichedMessage
import HftEngine.Pipeline.OptionFields
import HftEngine.Pipeline.Analyses
import HftEngine.Backend.Expiry
import HftEngine.Core.CircuitBreaker
import HftEngine.Admin.Config
import HftEngine.Pipeline.ConfigUpdates
import HftEngine.Lib.Ranking
import HftEngine.Lib.Grouping
import HftEngine.Lib.Base64
import HftEngine.Lib.KeyedTable
import HftEngine.Lib.Pages
import HftEngine.Lib.Masks
import HftEngine.Lib.Normal
import HftEngine.Processor.AnalyzerCache
import HftEngine.Processor.Percentages
import HftEngine.Pipeline.VisibleRange
import HftEngine.Frontend.PercentageHighlights
import HftEngine.Pipeline.Highlights
import HftEngine.Backend.OptionChain
import HftEngine.Lib.Caching
import HftEngine.Admin.ConfigReads
import HftEngine.Pipeline.ActiveInstruments
import HftEngine.Core.RateLimiter
import HftEngine.Backend.RateLimit
import HftEngine.Core.Bulkhead
import HftEngine.Core.QueryCache
import HftEngine.Core.LayeredCache
import HftEngine.Pipeline.DhanTokens
import HftEngine.Backend.WebSocket.Manager
import HftEngine.Backend.WebSocket.Channels
import HftEngine.Backend.WebSocket.Loops
import HftEngine.Backend.WebSocket.Broadcast
import HftEngine.Backend.WebSocket.Streams
import HftEngine.Backend.WebSocket.Charts
import HftEngine.Backend.WebSocket.Support
import HftEngine.Realtime.WebSocketServer
import HftEngine.Backend.WebSocket.PriorityQueue
import HftEngine.Backend.WebSocket.Sender
import HftEngine.Backend.Cached.Coalescing
import HftEngine.Backend.Cached.Keys
import HftEngine.Backend.TaskQueue
import HftEngine.Core.KafkaConsumer
import HftEngine.Core.ServiceRegistry
import HftEngine.Backend.ChartOfAccuracy
import HftEngine.Backend.ChartOfAccuracy.Mirror
import HftEngine.Backend.ChartOfAccuracy.MirrorLevels
import HftEngine.Backend.CoaRoutes
import HftEngine.Frontend.ChartOfAccuracy
import HftEngine.Backend.Normalization
import HftEngine.Core.Paginator
import HftEngine.Core.BlackScholes
import HftEngine.Core.BlackScholes.Branches
import HftEngine.Core.BlackScholes.Agreement
import HftEngine.Backend.LegOptimizer
import HftEngine.Backend.LegOptimizer.Strategies
import HftEngine.Backend.StrategyRoutes
import HftEngine.Ingestion.Partitioner
import HftEngine.Backend.Community
import HftEngine.Storage.Atomicity
import HftEngine.Backend.Community.Tables
import HftEngine.Backend.Community.Votes
import HftEngine.Backend.Community.Replies
import HftEngine.Backend.Community.HelpfulVotes
import HftEngine.Backend.AdjustmentEngine
import HftEngine.Backend.CoaAlerts
import HftEngine.Backend.Positions
import HftEngine.Backend.Positions.Pnl
import HftEngine.Backend.Positions.Alerts
import HftEngine.Frontend.ChartSocket
import HftEngine.Frontend.DataSlice
import HftEngine.Backend.StrategySimulation.Payoff
import HftEngine.Backend.StrategySimulation.MaxProfitLoss
import HftEngine.Backend.StrategySimulation.Breakevens
import HftEngine.Backend.StrategySimulation.ProbabilityOfProfit
import HftEngine.Backend.StrategySimulation.PriceSlices
import HftEngine.Backend.LegOptimizer.CapitalBound
import HftEngine.Backend.AdjustmentEngine.Rolls
import HftEngine.Backend.Positions.Targets
import HftEngine.Ingestion.NearestExpiry
import HftEngine.Processor.Futures
import HftEngine.Lib.Rounding
import HftEngine.Pipeline.PercentageRanks
import HftEngine.Core.MaxPain
import HftEngine.Calculations.BinomialTree
import HftEngine.Backend.StrategySimulation.Parity
import HftEngine.Core.HigherGreeks
import HftEngine.Processor.AdvancedReversal
import HftEngine.Backend.Reversal
import HftEngine.Backend.ReversalProfile
import HftEngine.Backend.ChartOfAccuracy.Strength
import HftEngine.Backend.ChartOfAccuracy.LevelOrder
import HftEngine.Backend.DhanTicks
import HftEngine.Core.AuthLimiter
import HftEngine.Core.Retry
import HftEngine.Backend.DhanTicks.Response
import HftEngine.Core.Resilience
import HftEngine.Core.Transform
import HftEngine.Backend.ExpiryDays
import HftEngine.Backend.Historical
import HftEngine.Backend.StrikeLookup
import HftEngine.Calculations.IvSolver
import HftEngine.Calculations.Financial
import HftEngine.Frontend.QuantStats
import HftEngine.Ingestion.Assignment
import HftEngine.Lib.Recency
import HftEngine.Processor.TTLCache
import HftEngine.Backend.PositionalScreener
import HftEngine.Backend.Streaming
import HftEngine.Core.Validation
import HftEngine.Admin.Auth
import HftEngine.Admin.Guesses
import HftEngine.Admin.Sessions
import HftEngine.Core.BreakerOutage
import HftEngine.Backend.Accounts
import HftEngine.Backend.Accounts.Administrators
import HftEngine.Backend.Accounts.Isolation
import HftEngine.Backend.Community.Cooldown
import HftEngine.Backend.Support
import HftEngine.Backend.Support.Closed
import HftEngine.Processor.GammaExposure
import HftEngine.Admin.MetricsStreaming
import HftEngine.Backend.Community.FeatureVotes
import HftEngine.Frontend.LiveFeed
import HftEngine.Frontend.LiveFeed.Connections
import HftEngine.Frontend.LiveFeed.Served
