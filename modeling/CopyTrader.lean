import CopyTrader.AutoSell.Anchor
import CopyTrader.AutoSell.Locking
import CopyTrader.AutoSell.Manager
import CopyTrader.AutoSell.Monitor
import CopyTrader.AutoSell.Persistence
import CopyTrader.AutoSell.Position
import CopyTrader.AutoSell.Tasks
import CopyTrader.Basic
import CopyTrader.Consensus.Backing
import CopyTrader.Consensus.Cleanup
import CopyTrader.Consensus.Decision
import CopyTrader.Consensus.Engine
import CopyTrader.Consensus.History
import CopyTrader.Consensus.Reject
import CopyTrader.Consensus.Upgrade
import CopyTrader.Consensus.Votes
import CopyTrader.Consensus.Window
import CopyTrader.Groups
import CopyTrader.Groups.File
import CopyTrader.Groups.Manager
import CopyTrader.Groups.Persisted
import CopyTrader.Groups.Wallets
import CopyTrader.Groups.WellFormed
import CopyTrader.Grpc.AccountSubscriber
import CopyTrader.Grpc.Attribution
import CopyTrader.Grpc.BalanceMint
import CopyTrader.Grpc.Followed
import CopyTrader.Grpc.Following
import CopyTrader.Grpc.OrderData
import CopyTrader.Grpc.Priority
import CopyTrader.Grpc.Removal
import CopyTrader.Grpc.Resubscription
import CopyTrader.Grpc.Tables
import CopyTrader.Grpc.TargetWallets
import CopyTrader.Grpc.Tracked
import CopyTrader.Grpc.Tracking
import CopyTrader.Grpc.Transactions
import CopyTrader.Grpc.Venues
import CopyTrader.Grpc.Warming
import CopyTrader.Lib.Answers
import CopyTrader.Lib.AnyOrder
import CopyTrader.Lib.Base58
import CopyTrader.Lib.Bytes
import CopyTrader.Lib.ConstantProduct
import CopyTrader.Lib.Cursor
import CopyTrader.Lib.DashMap
import CopyTrader.Lib.Durable
import CopyTrader.Lib.Evidence
import CopyTrader.Lib.F64
import CopyTrader.Lib.Guards
import CopyTrader.Lib.Json
import CopyTrader.Lib.Lease
import CopyTrader.Lib.Lists
import CopyTrader.Lib.Machine
import CopyTrader.Lib.OrderedMaps
import CopyTrader.Lib.Outcome
import CopyTrader.Lib.Peak
import CopyTrader.Lib.Pool
import CopyTrader.Lib.Program
import CopyTrader.Lib.SortedSets
import CopyTrader.Lib.Spacing
import CopyTrader.Lib.Statistics
import CopyTrader.Lib.Text
import CopyTrader.Lib.Windows
import CopyTrader.Main.Budget
import CopyTrader.Main.Buy
import CopyTrader.Main.Claims
import CopyTrader.Main.Decisions
import CopyTrader.Main.Dedup
import CopyTrader.Main.InFlight
import CopyTrader.Main.Intake
import CopyTrader.Main.Provenance
import CopyTrader.Main.Reports
import CopyTrader.Main.Settlement
import CopyTrader.Main.Withdrawals
import CopyTrader.Processor.BuyAmounts
import CopyTrader.Processor.CurveQuotes
import CopyTrader.Processor.Mirror
import CopyTrader.Processor.MirrorBranches
import CopyTrader.Processor.MirrorCheck
import CopyTrader.Processor.MirrorLayout
import CopyTrader.Processor.Orders
import CopyTrader.Processor.Prefetch
import CopyTrader.Processor.Pumpfun
import CopyTrader.Processor.Quotes
import CopyTrader.Processor.Trade
import CopyTrader.Solana
import CopyTrader.Tasks.Alphabet
import CopyTrader.Tasks.Exits
import CopyTrader.Tasks.Ledger
import CopyTrader.Tasks.Op
import CopyTrader.Tasks.Positions
import CopyTrader.Tasks.Prefetching
import CopyTrader.Tasks.Reads
import CopyTrader.Tasks.Retention
import CopyTrader.Tasks.Signals
import CopyTrader.Tasks.World
import CopyTrader.Telegram
import CopyTrader.Telegram.Bookkeeping
import CopyTrader.Telegram.Commands
import CopyTrader.Telegram.Menu
import CopyTrader.Telegram.Performance
import CopyTrader.Telegram.Reports
import CopyTrader.Telegram.Saving
import CopyTrader.Telegram.Sessions
import CopyTrader.Telegram.Settings
import CopyTrader.Telegram.Statistics
import CopyTrader.Telegram.Updates
import CopyTrader.Tx.Activation
import CopyTrader.Tx.BalanceAccounts
import CopyTrader.Tx.Builder
import CopyTrader.Tx.BuyEvidence
import CopyTrader.Tx.Confirm
import CopyTrader.Tx.Counting
import CopyTrader.Tx.Credit
import CopyTrader.Tx.Exclusion
import CopyTrader.Tx.Failing
import CopyTrader.Tx.GroupSettings
import CopyTrader.Tx.Ownership
import CopyTrader.Tx.PartialSales
import CopyTrader.Tx.Restoring
import CopyTrader.Tx.Routing
import CopyTrader.Tx.SellEvidence
import CopyTrader.Tx.SellExecutor
import CopyTrader.Tx.Selling
import CopyTrader.Tx.Sizing
import CopyTrader.Tx.Slippage
import CopyTrader.Tx.Terminal
