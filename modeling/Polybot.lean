import Polybot.Interaction.Transition
import Polybot.Interaction.Program
import Polybot.Interaction.Handler
import Polybot.Interaction.Pool
import Polybot.Interaction.Stage
import Polybot.Interaction.Contract
import Polybot.Collections.Checked
import Polybot.Collections.Dict
import Polybot.Collections.Table
import Polybot.Collections.Text
import Polybot.Models
import Polybot.Arithmetic.Decimal
import Polybot.Arithmetic.Polyline
import Polybot.Execution.OrderManager
import Polybot.Execution.PairInventory
import Polybot.Execution.Finish
import Polybot.Execution.HedgeBudget
import Polybot.Execution.ArrivalOrder
import Polybot.Execution.HedgeNeutral
import Polybot.Store.PairTables
import Polybot.Store.PairRpc
import Polybot.Store.AverageRounding
import Polybot.Store.EquityState
import Polybot.Store.RpcLaws
import Polybot.Store.PairStore
import Polybot.Store.Accounting
import Polybot.Store.Agreement
import Polybot.Store.Loading
import Polybot.Store.Retention
import Polybot.Execution.Coordinator
import Polybot.Execution.Serving
import Polybot.Execution.LawfulRequests
import Polybot.Execution.FillAccounting
import Polybot.Execution.Reload
import Polybot.Execution.DeadlineOutcome
import Polybot.Execution.Harmless
import Polybot.Execution.GroupStatus
import Polybot.Execution.Frozen
import Polybot.Ledger.Replay
import Polybot.Ledger.Order
import Polybot.Ledger.Conservation
import Polybot.Ledger.Cutoff
import Polybot.Execution.Orphans
import Polybot.Trading.Models
import Polybot.Trading.Fees
import Polybot.Trading.Commitment
import Polybot.Trading.Strategy
import Polybot.Trading.Sweep
import Polybot.Trading.Risk
import Polybot.Trading.Sizing
import Polybot.Trading.LargerBudget
import Polybot.Trading.PairPricer
import Polybot.Collections.Greedy
import Polybot.Collections.Grouped
import Polybot.Collections.Paging
import Polybot.Collections.Sample
import Polybot.Interaction.LockedRow
import Polybot.Interaction.Machine
import Polybot.Inventory.PairBook
import Polybot.Inventory.Agreement
import Polybot.Paper.Broker
import Polybot.Paper.Conservation
import Polybot.Paper.Exposure
import Polybot.Paper.State
import Polybot.Paper.Restart
import Polybot.Paper.Caps
import Polybot.Paper.Depth
import Polybot.Paper.Pricing
import Polybot.Collections.Fifo
import Polybot.Simulation.L2Replay
import Polybot.Simulation.Queues
import Polybot.Simulation.Sequence
import Polybot.Simulation.OrderLife
import Polybot.Simulation.Cancellation
import Polybot.Simulation.PostOnly
import Polybot.Reconcile.Payloads
import Polybot.Reconcile.OrderLedger
import Polybot.Reconcile.Executions
import Polybot.Reconcile.Progress
import Polybot.Reconcile.FillJoin
import Polybot.Reconcile.Absence
import Polybot.Reconcile.PendingTrades
import Polybot.Reconcile.Settlement
import Polybot.Reconcile.Interleaving
import Polybot.Ledger.Snapshot
import Polybot.Ledger.Cache
import Polybot.Ledger.Paged
import Polybot.Reconcile.Account
import Polybot.Reconcile.Pass
import Polybot.Reconcile.Conduct
import Polybot.Reconcile.Books
import Polybot.Reconcile.Quarantine
import Polybot.Reconcile.RaceWarning
import Polybot.Reconcile.Delivery
import Polybot.Reconcile.FillCallback
import Polybot.Reconcile.NotedFills
import Polybot.Control.Runtime
import Polybot.Control.Calls
import Polybot.Control.Latch
import Polybot.Control.Gate
import Polybot.Control.Watch
import Polybot.Control.Tenants
import Polybot.Control.Jobs
import Polybot.Control.Revocation
import Polybot.Control.JobFencing
import Polybot.Control.MemoryLease
import Polybot.Control.MemoryJobs
import Polybot.Control.PersonalConfiguration
import Polybot.Auth.Jwks
import Polybot.Auth.KeyLookups
import Polybot.Ai.Budget
import Polybot.Ai.Performance
import Polybot.Ai.Calibration
import Polybot.Ai.Ensemble
import Polybot.Engine.SafetyStop
import Polybot.Market.StreamBook
import Polybot.Worker.TenantRunner
import Polybot.Worker.RunsOnce
import Polybot.Worker.Shutdown
import Polybot.Brokers.Polymarket
import Polybot.Brokers.Submission
import Polybot.Brokers.Gate
import Polybot.Brokers.Broadcast
import Polybot.Brokers.AcceptedOrders
import Polybot.Engine.Cycle
import Polybot.Engine.HeldMarkets
import Polybot.Engine.CheckedGround
import Polybot.Engine.CheckedCycle
import Polybot.Trading.Backtest
import Polybot.Trading.PolicyGate
import Polybot.Worker.Readiness
import Polybot.Worker.EffectiveMode
import Polybot.Worker.Downgrade
