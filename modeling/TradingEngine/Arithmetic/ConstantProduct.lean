import TradingEngine.Arithmetic.Checked

/-! # Constant-product arithmetic

What a swap against two reserves pays or costs, how far it is from the spot price, and what a
deposit or a withdrawal is worth in pool shares. Every division rounds down, so a quote can
under-credit the caller but never over-credit.
-/

namespace TradingEngine.ConstantProduct

open Checked Quantity

variable {ν : Type} [Quantity ν]

/-- The whole less a share of `bps` basis points. -/
def keptBps (bps : ν) : Except Fault ν := sub (ofInt bpsWhole) bps

/-- The amount less `bps` basis points: floor(amount * (10000 - bps) / 10000). -/
def haircut (value bps : ν) : Except Fault ν := do
  let _ ← amount "amount" value
  if ← lt bps (ofInt 0) then refuse (.bpsOutOfRange (toJson bps))
  if ← lt (ofInt bpsWhole) bps then refuse (.bpsOutOfRange (toJson bps))
  let scaled ← product value (← keptBps bps)
  toU64 (← quotient scaled (ofInt bpsWhole))

/-- What a swap pays: net * reserveOut / (reserveIn + net), where net is the input less the fee. -/
def swapOutput (amountIn reserveIn reserveOut feeBps : ν) : Except Fault ν := do
  let _ ← amount "amount_in" amountIn
  let _ ← amount "reserve_in" reserveIn
  let _ ← amount "reserve_out" reserveOut
  let net ← haircut amountIn feeBps
  let numerator ← product net reserveOut
  let denominator ← sum reserveIn net
  toU64 (← quotient numerator denominator)

/-- What a swap that pays `amountOut` costs, rounded up by one unit so that it always suffices. -/
def swapInput (amountOut reserveIn reserveOut feeBps : ν) : Except Fault ν := do
  let _ ← amount "amount_out" amountOut
  let _ ← amount "reserve_in" reserveIn
  let _ ← amount "reserve_out" reserveOut
  if ← le reserveOut amountOut then
    refuse (.drainsPool (toJson amountOut) (toJson reserveOut))
  let numerator ← product (← product reserveIn amountOut) (ofInt bpsWhole)
  let left ← difference reserveOut amountOut
  let denominator ← product left (← keptBps feeBps)
  toU64 (← sum (← quotient numerator denominator) (ofInt 1))

/-- The shortfall of `amountOut` against a swap at the spot price, in basis points. -/
def priceImpactBps (amountIn amountOut reserveIn reserveOut : ν) : Except Fault ν := do
  let _ ← amount "amount_in" amountIn
  let _ ← amount "amount_out" amountOut
  let expected ← toU64 (← quotient (← product amountIn reserveOut) reserveIn)
  let shortfall ← difference expected amountOut
  quotient (← product shortfall (ofInt bpsWhole)) expected

/-- The pool shares that a deposit earns; the scarcer side caps an asymmetric deposit. -/
def lpMint (amountA amountB reserveA reserveB lpSupply : ν) : Except Fault ν := do
  let _ ← amount "lp_supply" lpSupply
  let shareA ← quotient (← product (← amount "amount_a" amountA) lpSupply) reserveA
  let shareB ← quotient (← product (← amount "amount_b" amountB) lpSupply) reserveB
  toU64 (← min shareA shareB)

/-- The reserves that burning `lpAmount` shares pays out. -/
def lpBurn (lpAmount reserveA reserveB lpSupply : ν) : Except Fault (ν × ν) := do
  let _ ← amount "lp_amount" lpAmount
  if ← lt lpSupply lpAmount then refuse (.burnTooLarge (toJson lpAmount) (toJson lpSupply))
  let outA ← quotient (← product lpAmount reserveA) lpSupply
  let outB ← quotient (← product lpAmount reserveB) lpSupply
  return (← toU64 outA, ← toU64 outB)

/-- The gain of buying low and selling high, in basis points of the low price. -/
def profitBps (low high : ν) : Except Fault ν := do
  let spread ← difference high low
  quotient (← product spread (ofInt bpsWhole)) low

end TradingEngine.ConstantProduct
