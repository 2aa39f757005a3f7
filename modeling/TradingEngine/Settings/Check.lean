import TradingEngine.Settings.Basic

/-! # Fit settings

What has to hold of the settings before any decision is made under them. `Settings.unfit` lists
every violation in words; settings are fit when the list is empty.
-/

namespace TradingEngine.Settings

open Quantity

variable {ν : Type} [Quantity ν]

/-- The settings that are shares, in basis points. -/
def shares : List String :=
  ["MAX_RELATIVE_CONFIDENCE_BPS", "ROUTE_MAX_SLIPPAGE_BPS", "MAX_SLIPPAGE_BPS"]

/-- The settings that have to be positive. -/
def positives : List String :=
  ["MAX_STALENESS_SECONDS", "ROUTE_DEADLINE_SECONDS", "MAX_DEADLINE_SECONDS", "TICK_SPACING",
    "MAX_LOOP_ITERATIONS"]

/-- The value of a setting that is a quantity. -/
def number (s : Settings ν) (name : String) : Except Fault ν :=
  held (((numbers.find? (·.name == name)).map (·.get s)).getD (ofInt 0))

/-- What is wrong with a share, if anything is. -/
def shareProblem (s : Settings ν) (name : String) : Except Fault (List Text) := do
  let value ← s.number name
  if ← le (ofInt 0) value then
    if ← le value (ofInt 10000) then return []
  return [name ++ " must be within [0, 10000], got " ++ (← (Quantity.toJson value).inWords)]

/-- What is wrong with a setting that has to be positive, if anything is. -/
def signProblem (s : Settings ν) (name : String) : Except Fault (List Text) := do
  if ← le (← s.number name) (ofInt 0) then return [s!"{name} must be positive"]
  return []

/-- What is wrong with two settings of which the first may not exceed the second, if anything is. -/
def orderProblem (s : Settings ν) (lesser greater : String) : Except Fault (List Text) := do
  let least ← s.number lesser
  if ← lt (← s.number greater) least then return [s!"{lesser} exceeds {greater}"]
  return []

/-- Every violation, in a fixed order. -/
def unfit (s : Settings ν) : Except Fault (List Text) := do
  let outside ← shares.mapM s.shareProblem
  let negative ← positives.mapM s.signProblem
  let confidence ← s.orderProblem "MIN_CONFIDENCE" "MAX_CONFIDENCE"
  let slippage ← s.orderProblem "ROUTE_MAX_SLIPPAGE_BPS" "MAX_SLIPPAGE_BPS"
  let deadline ← s.orderProblem "ROUTE_DEADLINE_SECONDS" "MAX_DEADLINE_SECONDS"
  return (outside ++ negative).flatten ++ confidence ++ slippage ++ deadline

end TradingEngine.Settings
