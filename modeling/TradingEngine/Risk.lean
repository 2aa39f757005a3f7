import TradingEngine.World

/-! # Risk limits and running totals

The gate that refuses a trade that is too large or comes after too much loss, and the totals that
every finished trade is folded into. A refusal is an ordinary answer and no failure.
-/

namespace TradingEngine

/-- The limits of an account. -/
structure RiskLimits where
  maxTradeSize : Int
  dailyLossLimit : Int
  maxSlippageBps : Int := 100
  minProfitBps : Int := 0
  deriving DecidableEq, Repr

/-- The running totals of an account. -/
structure Metrics (ν : Type) where
  totalProfitLoss : ν
  winCount : Int := 0
  lossCount : Int := 0
  largestProfit : ν
  largestLoss : ν
  deriving DecidableEq, Repr

open Quantity

variable {ν : Type} [Quantity ν]

namespace Metrics

/-- The totals of an account without trades. -/
def none : Metrics ν :=
  { totalProfitLoss := ofInt 0, largestProfit := ofInt 0, largestLoss := ofInt 0 }

instance : Inhabited (Metrics ν) := ⟨none⟩

def totalTrades {ν : Type} (m : Metrics ν) : Int := m.winCount + m.lossCount

/-- The share of winning trades in whole percent, rounded down; 0 before any trade. -/
def winRate {ν : Type} (m : Metrics ν) : Int :=
  if m.totalTrades = 0 then 0 else (m.winCount * 100).fdiv m.totalTrades

/-- The totals after one more trade. A trade without profit is a loss; the extremes never shrink. -/
def add (m : Metrics ν) (profitLoss : ν) : Except Fault (Metrics ν) := do
  if ← lt (ofInt 0) profitLoss then
    let total ← Quantity.add m.totalProfitLoss profitLoss
    let largest ← Quantity.max m.largestProfit profitLoss
    return { m with
      totalProfitLoss := total, winCount := m.winCount + 1, largestProfit := largest }
  else
    let total ← Quantity.add m.totalProfitLoss profitLoss
    let largest ← Quantity.max m.largestLoss (← neg profitLoss)
    return { m with
      totalProfitLoss := total, lossCount := m.lossCount + 1, largestLoss := largest }

/-- Folds one trade into the totals and journals them. -/
def record (m : Metrics ν) (profitLoss : ν) : Engine ν (Metrics ν) := do
  let updated ← Engine.ofExcept (m.add profitLoss)
  Engine.log .info "METRICS_UPDATED"
    [("profit_or_loss", Quantity.toJson profitLoss),
      ("total_profit_loss", Quantity.toJson updated.totalProfitLoss),
      ("trades", .int updated.totalTrades)]
  return updated

/-- Folds these trades into the totals, each with its journal entry. -/
def recordAll (m : Metrics ν) (results : List ν) : Engine ν (Metrics ν) := results.foldlM record m

end Metrics

namespace RiskLimits

/-- The limit that a trade of this size breaks, if it breaks one. -/
def broken? (risk : RiskLimits) (metrics : Metrics ν) (size : ν) :
    Except Fault (Option RiskLimit) := do
  if ← lt (ofInt risk.maxTradeSize) size then return some .maxTradeSize
  if ← lt metrics.totalProfitLoss (ofInt (-risk.dailyLossLimit)) then return some .dailyLoss
  return none

/-- Whether a trade is allowed. A refusal is counted and journalled. -/
def allow (risk : RiskLimits) (metrics : Metrics ν) (size : ν) : Engine ν Bool := do
  match ← Engine.ofExcept (risk.broken? metrics size) with
  | none => return true
  | some .maxTradeSize =>
    Engine.count (.riskRejections .maxTradeSize)
    Engine.log .warning "TRADE_REJECTED_SIZE"
      [("trade_size", Quantity.toJson size), ("max_trade_size", .int risk.maxTradeSize)]
    return false
  | some .dailyLoss =>
    Engine.count (.riskRejections .dailyLoss)
    Engine.log .warning "TRADE_REJECTED_DAILY_LOSS"
      [("total_profit_loss", Quantity.toJson metrics.totalProfitLoss),
        ("daily_loss_limit", .int risk.dailyLossLimit)]
    return false

end RiskLimits

end TradingEngine
