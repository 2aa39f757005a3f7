import TradingEngine.Strategy.Context

/-! # Predicates that can be written down

A caller's predicate may be any function of the snapshot, the venues and the run. A `Watch` is one
of the predicates that are common enough to have a written form.
-/

namespace TradingEngine

/-- A predicate in written form. -/
inductive Watch (ν : Type) where
  /-- Always the truth of this value. -/
  | constant (value : Json)
  | tradesAtLeast (count : ν)
  | priceAbove (feed : Name) (bound : ν)
  | balanceAtLeast (token : Name) (least : ν)
  | profitLossBelow (bound : ν)
  /-- Always refuses. -/
  | refusal (kind : FailureKind) (message : Json)
  /-- Always breaks down. -/
  | collapse (breakdown : Breakdown)
  deriving BEq, Repr

variable {ν : Type} [Quantity ν]

open Quantity

/-- A number of a table, or zero for a name that is not in it. -/
def Watch.numberOf (name : Name) (table : List (Text × Int)) : Except Fault ν :=
  match Table.named? name table with
  | .ok found => .ok (ofInt (found.getD 0))
  | .error b => .error (.breakdown b)

/-- The predicate that a written form stands for. -/
def Watch.predicate : Watch ν → Predicate ν
  | constant value => fun _ _ _ => .ok value.truthy
  | tradesAtLeast count => fun _ _ run => le count (ofInt run.trades.length)
  | priceAbove feed bound => fun _ _ run => do lt bound (← numberOf feed run.lastPrices)
  | balanceAtLeast token least =>
    fun snapshot _ _ => do le least (← numberOf token snapshot.balances)
  | profitLossBelow bound => fun _ _ run => lt (ofInt run.cumulativeProfitLoss) bound
  | refusal kind message => fun _ _ _ => refuse (.raised kind message)
  | collapse breakdown => fun _ _ _ => .error (.breakdown breakdown)

end TradingEngine
