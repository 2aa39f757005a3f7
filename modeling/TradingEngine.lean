import TradingEngine.Control.Delivery
import TradingEngine.Journal.Call
import TradingEngine.Main
import TradingEngine.Record.Block
import TradingEngine.Session
import TradingEngine.Proofs.Frame
import TradingEngine.Proofs.Strategy.Progress
import TradingEngine.Proofs.Except
import TradingEngine.Proofs.Strategy.Wellformed
import TradingEngine.Proofs.Table
import TradingEngine.Proofs.Strategy.Schedule
import TradingEngine.Proofs.Strategy.Execution
import TradingEngine.Proofs.Strategy.Invariant
import TradingEngine.Proofs.Strategy.RiskGate
import TradingEngine.Proofs.ConstantProduct
import TradingEngine.Proofs.Venue.Reserves
import TradingEngine.Proofs.Venue.Paper
import TradingEngine.Proofs.Venue.Calls
import TradingEngine.Proofs.Venue.ShareValue
import TradingEngine.Proofs.Wording
import TradingEngine.Proofs.Strategy.Leg
import TradingEngine.Proofs.Strategy.RouteBooks
import TradingEngine.Proofs.Strategy.OpenPosition
import TradingEngine.Proofs.Venue.Atomic
import TradingEngine.Proofs.Venue.Ownership
import TradingEngine.Proofs.Venue.Range
import TradingEngine.Proofs.Halted
import TradingEngine.Proofs.Control.Switch
import TradingEngine.Proofs.Venue.Repeat
import TradingEngine.Proofs.Strategy.Ledger
import TradingEngine.Proofs.Venue.Legible
import TradingEngine.Proofs.Strategy.Telling
import TradingEngine.Proofs.Strategy.Readings
import TradingEngine.Proofs.Strategy.Validation
import TradingEngine.Proofs.Strategy.Unbroken
import TradingEngine.Proofs.NoOverflow
import TradingEngine.Proofs.SwapCost
import TradingEngine.Proofs.Shares
import TradingEngine.Proofs.Strategy.RouteLimits
import TradingEngine.Proofs.Json.Fields
import TradingEngine.Proofs.Json.Tokens
import TradingEngine.Proofs.Json.RoundTrip
import TradingEngine.Proofs.Json.Readable
import TradingEngine.Proofs.Json.KeyOrder
import TradingEngine.Proofs.Json.Writing
import TradingEngine.Proofs.AuditTrail
import TradingEngine.Proofs.Steady
import TradingEngine.Proofs.Sendable
import TradingEngine.Proofs.Control.Search
import TradingEngine.Proofs.Control.Findings
import TradingEngine.Proofs.Venue.Splitting
import TradingEngine.Proofs.Strategy.RouteGain
import TradingEngine.Proofs.Settings
import TradingEngine.Proofs.Strategy.Faults
import TradingEngine.Proofs.Strategy.Verdict
import TradingEngine.Proofs.Strategy.Selection
import TradingEngine.Proofs.Strategy.FullMesh
import TradingEngine.Proofs.Venue.SwapContract
import TradingEngine.Proofs.Decoded
import TradingEngine.Proofs.Strategy.PaperProfit
import TradingEngine.Proofs.Venue.Fills
import TradingEngine.Proofs.Venue.Redemption
import TradingEngine.Proofs.Rebalance.Plan
import TradingEngine.Proofs.Rebalance.Settling
import TradingEngine.Proofs.Rebalance.Execution
import TradingEngine.Proofs.Rebalance.Funding
import TradingEngine.Proofs.Strategy.PriceImpact
import TradingEngine.Proofs.Market.MeanPrice
import TradingEngine.Proofs.Market.Acceptance
import TradingEngine.Proofs.Totals
import TradingEngine.Proofs.SwapQuote
import TradingEngine.Proofs.AmountRange
