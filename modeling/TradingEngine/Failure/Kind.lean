/-! # Kinds of failure

The taxonomy of what an operation may refuse to do. Each kind has a stable code and, the root apart,
one more general kind, so that a caller can react to a family without knowing its members.
-/

namespace TradingEngine

/-- A kind of failure, general or specific. -/
inductive FailureKind where
  | engine
  | config
  | invalidConfiguration
  | invalidRatios
  | invalidTickRange
  | marketData
  | stalePrice
  | lowConfidence
  | insufficientConfidence
  | excessiveRelativeConfidence
  | insufficientPriceData
  | economicGuard
  | slippageExceeded
  | deadlineExceeded
  | insufficientProfit
  | overflow
  | conditionNotMet
  | strategyInactive
  | haltActive
  deriving DecidableEq, Repr, Inhabited

namespace FailureKind

/-- The stable code of a kind. -/
def code : FailureKind → String
  | engine => "ENGINE_ERROR"
  | config => "CONFIG_ERROR"
  | invalidConfiguration => "INVALID_CONFIGURATION"
  | invalidRatios => "INVALID_RATIOS"
  | invalidTickRange => "INVALID_TICK_RANGE"
  | marketData => "MARKET_DATA_ERROR"
  | stalePrice => "STALE_PRICE"
  | lowConfidence => "LOW_CONFIDENCE"
  | insufficientConfidence => "INSUFFICIENT_CONFIDENCE"
  | excessiveRelativeConfidence => "EXCESSIVE_RELATIVE_CONFIDENCE"
  | insufficientPriceData => "INSUFFICIENT_PRICE_DATA"
  | economicGuard => "ECONOMIC_GUARD"
  | slippageExceeded => "SLIPPAGE_EXCEEDED"
  | deadlineExceeded => "DEADLINE_EXCEEDED"
  | insufficientProfit => "INSUFFICIENT_PROFIT"
  | overflow => "OVERFLOW"
  | conditionNotMet => "CONDITION_NOT_MET"
  | strategyInactive => "STRATEGY_INACTIVE"
  | haltActive => "KILL_SWITCH_ACTIVE"

/-- The family that a kind belongs to. -/
def family : FailureKind → FailureKind
  | invalidConfiguration | invalidRatios | invalidTickRange => config
  | stalePrice | lowConfidence | insufficientConfidence | excessiveRelativeConfidence
  | insufficientPriceData => marketData
  | slippageExceeded | deadlineExceeded | insufficientProfit => economicGuard
  | _ => engine

/-- The kind and its families, from the most specific to the root. -/
def lineage (k : FailureKind) : List FailureKind :=
  if k = engine then [engine]
  else if k.family = engine then [k, engine]
  else [k, k.family, engine]

/-- Whether a kind is `general` or belongs to it. -/
def isA (k general : FailureKind) : Bool := k.lineage.contains general

end FailureKind

end TradingEngine
