import TradingEngine.Arithmetic.Checked
import TradingEngine.Settings.Basic
import TradingEngine.Table

/-! # Pre-trade guards

Limits on what a caller may ask for: shares in basis points, slippage, deadlines, tick ranges and
the least output of a swap. Each guard gives back what it was given or says what is wrong with it.
-/

namespace TradingEngine.Guard

open Quantity

variable {ν : Type} [Quantity ν]

/-- A share from 0 to 10000 basis points. -/
def bps (field : Name) (value : ν) : Except Fault ν :=
  match whole? value with
  | some n =>
    if n < 0 || n > bpsWhole then refuse (.notBps field (toJson value)) else .ok value
  | none => refuse (.notBps field (toJson value))

/-- A slippage that is a share and at most the configured cap. -/
def slippage (s : Settings ν) (value : ν) : Except Fault ν := do
  let _ ← bps (.string "slippage_bps") value
  let cap ← held s.maxSlippageBps
  if ← lt cap value then refuse (.slippageAboveCap (toJson value) (toJson cap))
  return value

/-- A deadline that has not passed and is not too far away. -/
def deadline (s : Settings ν) (deadline now : ν) : Except Fault ν := do
  if ← lt deadline now then
    refuse (.deadlinePassed (toJson (← sub now deadline)) (toJson deadline) (toJson now))
  if ← lt (← add now (← held s.maxDeadlineSeconds)) deadline then
    refuse (.deadlineTooFar (toJson deadline) (toJson now))
  return deadline

def minTick : Int := -443636

def maxTick : Int := 443636

/-- Whether two ticks are within bounds and in order. -/
def inBounds (lower upper : ν) : Except Fault Bool := do
  if ← le (ofInt minTick) lower then
    if ← lt lower upper then
      return ← le upper (ofInt maxTick)
  return false

/-- Whether a tick is a multiple of the spacing. -/
def onGrid (tick spacing : ν) : Except Fault Bool := return isZero (← floorMod tick spacing)

/-- A range of ticks within bounds, in order, and on the grid of the spacing. -/
def tickRange (lower upper spacing : ν) : Except Fault (ν × ν) := do
  if !(← inBounds lower upper) then
    refuse (.ticksOutOfBounds (toJson lower) (toJson upper))
  if ← onGrid lower spacing then
    if ← onGrid upper spacing then return (lower, upper)
  refuse (.ticksOffGrid (toJson lower) (toJson upper) (toJson spacing))

/-- A filled amount that is not below the least output asked for. -/
def minimumOut (amountOut minimumOut : ν) : Except Fault ν := do
  if ← lt amountOut minimumOut then
    refuse (.belowMinimumOut (toJson amountOut) (toJson minimumOut))
  return amountOut

end TradingEngine.Guard
