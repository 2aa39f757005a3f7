import TradingEngine.Record.Market
import TradingEngine.Strategy.Context
import TradingEngine.Strategy.Rebalance

/-! # Records of an account

How limits, totals, run states, target shares and moves are read and written.
-/

namespace TradingEngine

namespace RiskLimits

def decode (origin : Origin) : Decoder RiskLimits :=
  Decoder.object origin fun fs =>
    RiskLimits.mk <$> Decoder.required fs "max_trade_size" (Decoder.atLeast 0)
      <*> Decoder.required fs "daily_loss_limit" (Decoder.atLeast 0)
      <*> Decoder.defaulted fs "max_slippage_bps" (Decoder.within 0 10000) 100
      <*> Decoder.defaulted fs "min_profit_bps" (Decoder.within 0 10000) 0

def toJson (r : RiskLimits) : Json :=
  .record [("max_trade_size", .int r.maxTradeSize), ("daily_loss_limit", .int r.dailyLossLimit),
    ("max_slippage_bps", .int r.maxSlippageBps), ("min_profit_bps", .int r.minProfitBps)]

end RiskLimits

namespace Metrics

variable {ν : Type} [Quantity ν]

def decode (origin : Origin) : Decoder (Metrics ν) :=
  Decoder.object origin fun fs =>
    (fun total wins losses profit loss =>
        { totalProfitLoss := Quantity.ofInt total, winCount := wins, lossCount := losses
          largestProfit := Quantity.ofInt profit, largestLoss := Quantity.ofInt loss })
      <$> Decoder.defaulted fs "total_profit_loss" Decoder.int 0
      <*> Decoder.defaulted fs "win_count" Decoder.int 0
      <*> Decoder.defaulted fs "loss_count" Decoder.int 0
      <*> Decoder.defaulted fs "largest_profit" Decoder.int 0
      <*> Decoder.defaulted fs "largest_loss" Decoder.int 0

def toJson (m : Metrics ν) : Json :=
  .record [("total_profit_loss", Quantity.toJson m.totalProfitLoss),
    ("win_count", .int m.winCount), ("loss_count", .int m.lossCount),
    ("largest_profit", Quantity.toJson m.largestProfit),
    ("largest_loss", Quantity.toJson m.largestLoss)]

/-- The totals with what follows from them. -/
def report (m : Metrics ν) : Json :=
  .record (Json.putAll m.toJson.fields
    [("total_trades", .int m.totalTrades), ("win_rate", .int m.winRate)])

end Metrics

def numbersJson (table : List (Text × Int)) : Json :=
  .record (table.map fun (key, n) => (key, .int n))

namespace RunState

/-- Reads the state of a run. -/
def decode (origin : Origin) (clock : Except Breakdown Int) : Decoder RunState :=
  Decoder.object origin fun fs =>
    RunState.mk <$> Decoder.defaulted fs "executed_block_ids" (Decoder.list Decoder.text) []
      <*> Decoder.defaulted fs "loop_counters" (Decoder.table Decoder.int) []
      <*> Decoder.defaulted fs "last_prices" (Decoder.table Decoder.int) []
      <*> Decoder.defaulted fs "trade_results" (Decoder.list (ExecutedTrade.decode origin clock)) []

def toJson (s : RunState) : Json :=
  .record [("executed_block_ids", .texts s.executedBlockIds),
    ("loop_counters", numbersJson s.loopCounters), ("last_prices", numbersJson s.lastPrices),
    ("trade_results", .list (s.trades.map ExecutedTrade.toJson))]

end RunState

namespace LiquidityTarget

def decode (origin : Origin) : Decoder LiquidityTarget :=
  Decoder.object origin fun fs =>
    LiquidityTarget.mk <$> Decoder.required fs "venue" VenueKind.decode
      <*> Decoder.required fs "pool" Decoder.text
      <*> Decoder.required fs "target_ratio" (Decoder.within 0 100)

def toJson (r : LiquidityTarget) : Json :=
  .record [("venue", .text r.venue.name), ("pool", .text r.pool),
    ("target_ratio", .int r.share)]

end LiquidityTarget

namespace LiquidityMove

def decode (origin : Origin) : Decoder LiquidityMove :=
  Decoder.object origin fun fs =>
    LiquidityMove.mk <$> Decoder.required fs "venue" VenueKind.decode
      <*> Decoder.required fs "pool" Decoder.text
      <*> Decoder.required fs "amount" Decoder.int
      <*> Decoder.required fs "direction" (Decoder.member MoveDirection.name MoveDirection.all)

def toJson (m : LiquidityMove) : Json :=
  .record [("venue", .text m.venue.name), ("pool", .text m.pool), ("amount", .int m.amount),
    ("direction", .text m.direction.name)]

end LiquidityMove

end TradingEngine
