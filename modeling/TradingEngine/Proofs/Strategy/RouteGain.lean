import TradingEngine.Proofs.Strategy.OpenPosition

/-! # What a route can gain

A swap pays at most what the constant product of its reserves gives for the whole input, which is
less than the spot price gives. A route is two such swaps in a row, so it gains only where the exit
pool's spot price is above that of the entry pool, whatever the fees, the quotes of the oracle and
the limits of the route.
-/

namespace TradingEngine

open Engine

namespace ConstantProduct

variable {amountIn reserveIn reserveOut feeBps out : Int}

/-- A swap pays no more than it would without a fee and without rounding. -/
theorem swapOutput_mul_le (h : swapOutput amountIn reserveIn reserveOut feeBps = .ok out) :
    0 < reserveIn + amountIn ∧ out * (reserveIn + amountIn) ≤ amountIn * reserveOut := by
  obtain ⟨_, _, _, net, kept, positive, _⟩ := swapOutput_eq h
  obtain ⟨_, _, netLe⟩ := of_haircut_ok kept
  obtain ⟨_, _, _, product⟩ := of_swapOutput_ok h
  refine ⟨by omega, ?_⟩
  calc out * (reserveIn + amountIn)
      = (reserveIn + amountIn) * reserveOut - (reserveIn + amountIn) * (reserveOut - out) := by
        grind
    _ ≤ (reserveIn + amountIn) * reserveOut - reserveIn * reserveOut := by omega
    _ = amountIn * reserveOut := by grind

/-- What is bought in one pool and sold in another one brings in no more than was spent, unless the
    second pool pays more than the first one asks. -/
theorem sold_le_spent {spent bought sold quote₁ base₁ base₂ quote₂ fee₁ fee₂ : Int}
    (entry : swapOutput spent quote₁ base₁ fee₁ = .ok bought)
    (exit : swapOutput bought base₂ quote₂ fee₂ = .ok sold)
    (notDearer : quote₂ * base₁ ≤ quote₁ * base₂) : sold ≤ spent := by
  obtain ⟨depth₁, paid₁⟩ := swapOutput_mul_le entry
  obtain ⟨depth₂, paid₂⟩ := swapOutput_mul_le exit
  obtain ⟨⟨nonnegSpent, _⟩, ⟨nonneg₁, _⟩, _⟩ := swapOutput_eq entry
  obtain ⟨⟨nonnegBought, _⟩, ⟨nonneg₂, _⟩, ⟨nonnegOut, _⟩, _⟩ := swapOutput_eq exit
  have deeper : quote₁ * base₂ ≤ (base₂ + bought) * (quote₁ + spent) := by
    rw [Int.mul_comm quote₁]
    exact Int.mul_le_mul (by omega) (by omega) nonneg₁ (by omega)
  refine Int.le_of_mul_le_mul_right ?_ (Int.mul_pos depth₂ depth₁)
  calc sold * ((base₂ + bought) * (quote₁ + spent))
      = sold * (base₂ + bought) * (quote₁ + spent) := by grind
    _ ≤ bought * quote₂ * (quote₁ + spent) :=
        Int.mul_le_mul_of_nonneg_right paid₂ (Int.le_of_lt depth₁)
    _ = quote₂ * (bought * (quote₁ + spent)) := by grind
    _ ≤ quote₂ * (spent * base₁) := Int.mul_le_mul_of_nonneg_left paid₁ nonnegOut
    _ = spent * (quote₂ * base₁) := by grind
    _ ≤ spent * (quote₁ * base₂) := Int.mul_le_mul_of_nonneg_left notDearer nonnegSpent
    _ ≤ spent * ((base₂ + bought) * (quote₁ + spent)) :=
        Int.mul_le_mul_of_nonneg_left deeper nonnegSpent

end ConstantProduct

namespace ArbitrageRoute

variable {route : ArbitrageRoute} {amountIn : Int} {ctx : Context Int} {w after : World Int}
  {trade : ExecutedTrade} {entry exit : Pool Int}

/-- A route that has traded has filled both of its legs, and reports what the second one has paid
    beyond what the first one has cost. -/
theorem of_execute_ok
    (executed : (route.execute amountIn ctx).result w = (.ok (some trade), after)) :
    ∃ slippage ready bought between sold last, w.Noted ready ∧
      (leg route.entryVenue route.pair.symbol route.pair.quote amountIn slippage).result ready =
        (.ok bought, between) ∧
      (leg route.exitVenue route.pair.symbol route.pair.base bought.amountOut slippage).result
        between = (.ok sold, last) ∧
      trade.profitLoss = sold.amountOut - amountIn := by
  rw [execute_eq] at executed
  obtain ⟨granted, ready, prepared, executed⟩ := of_bind_ok executed
  have noted := route.prepare_noted amountIn ctx w
  rw [prepared] at noted
  cases granted with
  | none => cases executed
  | some slippage =>
      obtain ⟨bought, between, entered, executed⟩ := of_bind_ok executed
      obtain ⟨sold, last, left, executed⟩ := of_bind_ok executed
      obtain ⟨profitLoss, _, subtracted, executed⟩ := of_bind_ok executed
      cases subtracted
      obtain ⟨reported, _, made, executed⟩ := of_bind_ok executed
      cases made
      obtain ⟨_, _, _, executed⟩ := of_bind_ok executed
      obtain ⟨_, _, _, executed⟩ := of_bind_ok executed
      cases executed
      exact ⟨slippage, ready, bought, between, sold, last, noted, entered, of_sell_ok left, rfl⟩

/-- A route between two pools gains only where the exit pool's spot price is above that of the entry
    pool. -/
theorem profitLoss_nonpos {entryQuote entryBase exitBase exitQuote : Int}
    (apart : route.entryVenue ≠ route.exitVenue)
    (atEntry : w.pool? route.entryVenue (.text route.pair.symbol) = some entry)
    (atExit : w.pool? route.exitVenue (.text route.pair.symbol) = some exit)
    (entrySides : entry.sides (.text route.pair.quote) = .ok (entryQuote, entryBase))
    (exitSides : exit.sides (.text route.pair.base) = .ok (exitBase, exitQuote))
    (notDearer : exitQuote * entryBase ≤ entryQuote * exitBase)
    (executed : (route.execute amountIn ctx).result w = (.ok (some trade), after)) :
    trade.profitLoss ≤ 0 := by
  obtain ⟨slippage, ready, bought, between, sold, last, noted, entered, left, gained⟩ :=
    of_execute_ok executed
  rw [← World.pool?_of_venues noted.venues] at atEntry atExit
  obtain ⟨held, quotedEntry, rfl, swapped⟩ := of_leg_ok atEntry entered
  -- The entry leg does not touch the pool of the exit leg.
  rw [← World.pool?_setPool_of_ne (.inl apart.symm), ← World.pool?_of_venues swapped.venues]
    at atExit
  obtain ⟨earned, quotedExit, rfl, _⟩ := of_leg_ok atExit left
  obtain ⟨_, foundEntry, paidEntry⟩ := Except.of_bind_ok quotedEntry
  cases entrySides.symm.trans foundEntry
  obtain ⟨_, foundExit, paidExit⟩ := Except.of_bind_ok quotedExit
  cases exitSides.symm.trans foundExit
  have bounded := ConstantProduct.sold_le_spent paidEntry paidExit notDearer
  rw [gained]
  dsimp only
  omega

/-- Between two pools of the same spot price a trade of 10000 loses 208. -/
theorem evenPair_profitLoss_nonpos :
    ∃ trade after, pairTrade 2000000 = (.ok (some trade), after) ∧ trade.profitLoss = -208 ∧
      trade.profitLoss ≤ 0 := by
  refine ⟨⟨"raydium_jupiter", .jupiter, "SOL/USDC", "USDC", 10000, 9792, -208, 0⟩, _, rfl, rfl, ?_⟩
  have executed : (pairRoute.execute 10000 pairContext).result (pairWorld 2000000) =
      (.ok (some ⟨"raydium_jupiter", .jupiter, "SOL/USDC", "USDC", 10000, 9792, -208, 0⟩), _) := rfl
  refine profitLoss_nonpos ?_ rfl rfl rfl rfl ?_ executed <;> decide

end ArbitrageRoute

end TradingEngine
