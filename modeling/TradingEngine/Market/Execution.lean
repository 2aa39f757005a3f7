import TradingEngine.Market.Basic
import TradingEngine.Record.Decoder

/-! # Fills and trades of quantities

What is reported of an execution has to be whole numbers, whatever the quantities were with which it
was carried out.
-/

namespace TradingEngine

variable {ν : Type} [Quantity ν]

def Fill.ofQuantities (amountIn amountOut : ν) : Except Fault Fill :=
  (Fill.mk <$> Decoder.field "amount_in" amountIn
    <*> Decoder.field "amount_out" amountOut).orFault .fill

@[simp] theorem Fill.ofQuantities_int (amountIn amountOut : Int) :
    Fill.ofQuantities amountIn amountOut = .ok ⟨amountIn, amountOut⟩ := rfl

def ExecutedTrade.ofQuantities (source : Text) (venue : VenueKind) (pool tokenIn : Text)
    (amountIn amountOut profitLoss : ν) (executedAt : Int) : Except Fault ExecutedTrade :=
  ((fun amountIn amountOut profitLoss =>
      { source, venue, pool, tokenIn, amountIn, amountOut, profitLoss, executedAt })
    <$> Decoder.field "amount_in" amountIn
    <*> Decoder.field "amount_out" amountOut
    <*> Decoder.field "profit_loss" profitLoss).orFault .trade

@[simp] theorem ExecutedTrade.ofQuantities_int (source : Text) (venue : VenueKind)
    (pool tokenIn : Text) (amountIn amountOut profitLoss executedAt : Int) :
    ExecutedTrade.ofQuantities source venue pool tokenIn amountIn amountOut profitLoss executedAt =
      .ok ⟨source, venue, pool, tokenIn, amountIn, amountOut, profitLoss, executedAt⟩ := rfl

end TradingEngine
