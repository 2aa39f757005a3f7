import TradingEngine.Arithmetic.ConstantProduct
import TradingEngine.Proofs.Except

/-! # Rounding favours the pool

What the checked operations guarantee of a result that they give, for whole numbers, and what
follows for swaps, deposits and withdrawals: every quotient is rounded against the caller, so a swap
never lowers the product of the reserves, and neither a deposit nor a withdrawal gives a share more
than its part of a reserve.
-/

namespace TradingEngine

theorem Quantity.min_int (a b : Int) : Quantity.min a b = .ok (Min.min a b) := by
  simp only [Quantity.min, Quantity.lt_int, Except.ok_bind, decide_eq_true_eq]
  rw [Int.min_def]
  by_cases below : b < a
  · rw [if_pos below, if_neg (Int.not_le.mpr below)]
    rfl
  · rw [if_neg below, if_pos (Int.not_lt.mp below)]
    rfl

namespace Checked

variable {a b n : Int}

theorem of_amount_ok {operand : String} (h : amount operand a = .ok n) :
    n = a ∧ 0 ≤ a ∧ a ≤ u64Max := by
  simp only [amount, Quantity.whole?_int] at h
  split at h
  · cases h
  · cases h
    rename_i inside
    simp only [Bool.or_eq_true, decide_eq_true_eq, not_or] at inside
    omega

theorem of_product_ok (h : product a b = .ok n) : n = a * b := by
  obtain ⟨whole, made, h⟩ := Except.of_bind_ok h
  cases made
  obtain ⟨tooLarge, _, h⟩ := Except.of_bind_ok h
  cases tooLarge with
  | true => cases h
  | false =>
      cases h
      rfl

theorem of_sum_ok (h : sum a b = .ok n) : n = a + b := by
  obtain ⟨whole, made, h⟩ := Except.of_bind_ok h
  cases made
  obtain ⟨tooLarge, _, h⟩ := Except.of_bind_ok h
  cases tooLarge with
  | true => cases h
  | false =>
      cases h
      rfl

theorem of_difference_ok (h : difference a b = .ok n) : b ≤ a ∧ n = a - b := by
  obtain ⟨negative, judged, h⟩ := Except.of_bind_ok h
  cases judged
  by_cases below : a < b
  · simp only [below, decide_true, if_true] at h
    cases h
  · simp only [below, decide_false, Bool.false_eq_true, if_false] at h
    cases h
    exact ⟨Int.not_lt.mp below, rfl⟩

theorem of_quotient_ok (h : quotient a b = .ok n) : b ≠ 0 ∧ n = a.fdiv b := by
  by_cases zero : b = 0
  · simp only [quotient, Quantity.isZero_int, zero, decide_true, if_true] at h
    cases h
  · simp only [quotient, Quantity.isZero_int, Quantity.floorDiv_int, zero, decide_false,
      Bool.false_eq_true, if_false] at h
    cases h
    exact ⟨zero, rfl⟩

theorem of_toU64_ok (h : toU64 a = .ok n) : n = a ∧ a ≤ u64Max := by
  obtain ⟨tooLarge, judged, h⟩ := Except.of_bind_ok h
  cases judged
  by_cases large : u64Max < a
  · simp only [Quantity.ofInt_int, large, decide_true, if_true] at h
    cases h
  · simp only [Quantity.ofInt_int, large, decide_false, Bool.false_eq_true, if_false] at h
    cases h
    omega

theorem toU64_of_le (h : a ≤ u64Max) : toU64 a = .ok a := by
  simp only [toU64, Quantity.ofInt_int, Quantity.lt_int, Except.ok_bind]
  rw [decide_eq_false (Int.not_lt.mpr h)]
  rfl

theorem toU64_of_lt (h : u64Max < a) : toU64 a = refuse (.resultTooLarge (.int a)) := by
  simp only [toU64, Quantity.ofInt_int, Quantity.lt_int, Except.ok_bind]
  rw [decide_eq_true h]
  rfl

theorem difference_of_le (h : b ≤ a) : difference a b = .ok (a - b) := by
  simp only [difference, Quantity.lt_int, Except.ok_bind, decide_eq_true_eq]
  rw [if_neg (Int.not_lt.mpr h)]
  rfl

theorem product_of_le (h : a * b ≤ u128Max) : product a b = .ok (a * b) := by
  simp only [product, mulUpTo, Quantity.mul_int, Quantity.ofInt_int, Quantity.lt_int,
    Except.ok_bind, decide_eq_true_eq]
  rw [if_neg (Int.not_lt.mpr h)]
  rfl

theorem product_of_lt (h : u128Max < a * b) :
    product a b = refuse (.productTooLarge (.int a) (.int b)) := by
  simp only [product, mulUpTo, Quantity.mul_int, Quantity.ofInt_int, Quantity.lt_int,
    Except.ok_bind, decide_eq_true_eq]
  rw [if_pos h]
  rfl

theorem le_of_product_ok (h : product a b = .ok n) : a * b ≤ u128Max := by
  refine Int.not_lt.mp fun large => ?_
  rw [product_of_lt large] at h
  cases h

theorem quotient_of_ne (h : b ≠ 0) : quotient a b = .ok (a.fdiv b) := by
  simp only [quotient, Quantity.isZero_int, Quantity.floorDiv_int, h, decide_false,
    Bool.false_eq_true, if_false]

theorem quotient_of_pos (h : 0 < b) : quotient a b = .ok (a / b) := by
  rw [quotient_of_ne (by omega), Int.fdiv_eq_ediv_of_nonneg a (Int.le_of_lt h)]

/-- A quotient of amounts is the greatest number whose product with the divisor is not above the
    dividend. -/
theorem le_quotient_iff {m : Int} (h : quotient a b = .ok n) (positive : 0 < b) :
    m ≤ n ↔ m * b ≤ a := by
  rw [(of_quotient_ok h).2, Int.fdiv_eq_ediv_of_nonneg a (Int.le_of_lt positive)]
  exact Int.le_ediv_iff_mul_le positive

/-- A quotient of amounts is the least number whose successor takes the divisor above the
    dividend. -/
theorem quotient_lt_iff {m : Int} (h : quotient a b = .ok n) (positive : 0 < b) :
    n < m ↔ a < m * b := by
  rw [← Int.not_le, ← Int.not_le, le_quotient_iff h positive]

/-- A quotient of amounts is rounded down. -/
theorem quotient_mul_le (h : quotient a b = .ok n) (positive : 0 < b) : n * b ≤ a :=
  (le_quotient_iff h positive).mp (Int.le_refl n)

theorem lt_quotient_add_one_mul (h : quotient a b = .ok n) (positive : 0 < b) : a < (n + 1) * b :=
  (quotient_lt_iff h positive).mp (Int.lt_add_one_iff.mpr (Int.le_refl n))

theorem quotient_nonneg (h : quotient a b = .ok n) (dividend : 0 ≤ a) (positive : 0 < b) :
    0 ≤ n := by
  rw [le_quotient_iff h positive, Int.zero_mul]
  exact dividend

end Checked

namespace ConstantProduct

open Checked

/-- A share is taken of an amount of 64 bits, and what is left of it is rounded down. -/
theorem haircut_eq {value bps kept : Int} (h : haircut value bps = .ok kept) :
    (0 ≤ value ∧ value ≤ u64Max) ∧ (0 ≤ bps ∧ bps ≤ bpsWhole) ∧
      quotient (value * (bpsWhole - bps)) bpsWhole = .ok kept := by
  obtain ⟨_, checked, h⟩ := Except.of_bind_ok h
  obtain ⟨low, judged, h⟩ := Except.of_bind_ok h
  cases judged
  by_cases negative : bps < 0
  · simp only [Quantity.ofInt_int, negative, decide_true, if_true] at h
    cases h
  simp only [Quantity.ofInt_int, negative, decide_false, Bool.false_eq_true, if_false] at h
  obtain ⟨high, judged, h⟩ := Except.of_bind_ok h
  cases judged
  by_cases large : bpsWhole < bps
  · simp only [large, decide_true, if_true] at h
    cases h
  simp only [large, decide_false, Bool.false_eq_true, if_false] at h
  obtain ⟨rest, subtracted, h⟩ := Except.of_bind_ok h
  cases subtracted
  obtain ⟨scaled, multiplied, h⟩ := Except.of_bind_ok h
  obtain ⟨rounded, divided, h⟩ := Except.of_bind_ok h
  rw [of_product_ok multiplied] at divided
  rw [(of_toU64_ok h).1]
  exact ⟨(of_amount_ok checked).2, ⟨Int.not_lt.mp negative, Int.not_lt.mp large⟩, divided⟩

/-- What is left of an amount after a share of it is neither negative nor more than the amount. -/
theorem of_haircut_ok {value bps kept : Int} (h : haircut value bps = .ok kept) :
    0 ≤ value ∧ 0 ≤ kept ∧ kept ≤ value := by
  obtain ⟨⟨nonneg, _⟩, ⟨_, share⟩, divided⟩ := haircut_eq h
  have whole : (0 : Int) < bpsWhole := by decide
  have below := quotient_mul_le divided whole
  have above := quotient_nonneg divided (Int.mul_nonneg nonneg (by omega)) whole
  refine ⟨nonneg, above, ?_⟩
  have bounded : value * (bpsWhole - bps) ≤ value * bpsWhole :=
    Int.mul_le_mul_of_nonneg_left (by omega) nonneg
  exact Int.le_of_mul_le_mul_right (Int.le_trans below bounded) whole

theorem haircut_floor {value bps kept : Int} (h : haircut value bps = .ok kept) :
    kept = value * (bpsWhole - bps) / bpsWhole := by
  obtain ⟨_, _, divided⟩ := haircut_eq h
  rw [(of_quotient_ok divided).2]
  exact Int.fdiv_eq_ediv_of_nonneg _ (by decide)

/-- A swap takes an amount and reserves of 64 bits, and pays for what the fee leaves of the amount,
    rounded down. -/
theorem swapOutput_eq {amountIn reserveIn reserveOut feeBps out : Int}
    (h : swapOutput amountIn reserveIn reserveOut feeBps = .ok out) :
    (0 ≤ amountIn ∧ amountIn ≤ u64Max) ∧ (0 ≤ reserveIn ∧ reserveIn ≤ u64Max) ∧
      (0 ≤ reserveOut ∧ reserveOut ≤ u64Max) ∧
      ∃ net, haircut amountIn feeBps = .ok net ∧ 0 < reserveIn + net ∧
        quotient (net * reserveOut) (reserveIn + net) = .ok out := by
  obtain ⟨_, checkedAmount, h⟩ := Except.of_bind_ok h
  obtain ⟨_, checkedIn, h⟩ := Except.of_bind_ok h
  obtain ⟨_, checkedOut, h⟩ := Except.of_bind_ok h
  obtain ⟨net, kept, h⟩ := Except.of_bind_ok h
  obtain ⟨numerator, multiplied, h⟩ := Except.of_bind_ok h
  obtain ⟨denominator, added, h⟩ := Except.of_bind_ok h
  obtain ⟨rounded, divided, h⟩ := Except.of_bind_ok h
  have boundsIn := (of_amount_ok checkedIn).2
  obtain ⟨_, nonnegNet, _⟩ := of_haircut_ok kept
  rw [of_product_ok multiplied, of_sum_ok added] at divided
  rw [(of_toU64_ok h).1]
  have nonzero := (of_quotient_ok divided).1
  exact ⟨(of_amount_ok checkedAmount).2, boundsIn, (of_amount_ok checkedOut).2, net, kept,
    by omega, divided⟩

/-- A swap is paid out of the reserve, and what the fee leaves of the input is worth, at the reserves
    after it, no less than what was paid at the reserves before it. -/
theorem swapOutput_covered {amountIn reserveIn reserveOut feeBps out : Int}
    (h : swapOutput amountIn reserveIn reserveOut feeBps = .ok out) :
    0 ≤ out ∧ out ≤ reserveOut ∧ ∃ net, haircut amountIn feeBps = .ok net ∧
      0 < reserveIn + net ∧ out * reserveIn ≤ net * (reserveOut - out) := by
  obtain ⟨_, _, ⟨nonnegOut, _⟩, net, kept, positive, divided⟩ := swapOutput_eq h
  obtain ⟨_, nonnegNet, _⟩ := of_haircut_ok kept
  have below := quotient_mul_le divided positive
  have above := quotient_nonneg divided (Int.mul_nonneg nonnegNet nonnegOut) positive
  have paid : out ≤ reserveOut := by
    have bounded : net * reserveOut ≤ reserveOut * (reserveIn + net) := by
      rw [Int.mul_comm net]
      exact Int.mul_le_mul_of_nonneg_left (by omega) nonnegOut
    exact Int.le_of_mul_le_mul_right (Int.le_trans below bounded) positive
  refine ⟨above, paid, net, kept, positive, ?_⟩
  calc out * reserveIn = out * (reserveIn + net) - out * net := by grind
    _ ≤ net * reserveOut - out * net := by omega
    _ = net * (reserveOut - out) := by grind

/-- A swap is paid out of the reserve and does not lower the product of the reserves. -/
theorem of_swapOutput_ok {amountIn reserveIn reserveOut feeBps out : Int}
    (h : swapOutput amountIn reserveIn reserveOut feeBps = .ok out) :
    0 ≤ amountIn ∧ 0 ≤ out ∧ out ≤ reserveOut ∧
      reserveIn * reserveOut ≤ (reserveIn + amountIn) * (reserveOut - out) := by
  obtain ⟨above, paid, net, kept, _, covered⟩ := swapOutput_covered h
  obtain ⟨nonnegAmount, _, netLe⟩ := of_haircut_ok kept
  refine ⟨nonnegAmount, above, paid, ?_⟩
  have worth : net * (reserveOut - out) ≤ amountIn * (reserveOut - out) :=
    Int.mul_le_mul_of_nonneg_right netLe (by omega)
  calc reserveIn * reserveOut
      = reserveIn * (reserveOut - out) + out * reserveIn := by grind
    _ ≤ reserveIn * (reserveOut - out) + amountIn * (reserveOut - out) := by omega
    _ = (reserveIn + amountIn) * (reserveOut - out) := by grind

/-- What is swapped are amounts of 64 bits. -/
theorem swapOutput_bounds {amountIn reserveIn reserveOut feeBps out : Int}
    (h : swapOutput amountIn reserveIn reserveOut feeBps = .ok out) :
    (0 ≤ amountIn ∧ amountIn ≤ u64Max) ∧ 0 ≤ out ∧ out ≤ u64Max := by
  obtain ⟨_, nonneg, covered, _⟩ := of_swapOutput_ok h
  obtain ⟨bounds, _, ⟨_, boundOut⟩, _⟩ := swapOutput_eq h
  exact ⟨bounds, nonneg, Int.le_trans covered boundOut⟩

/-- What a swap costs is asked for reserves of 64 bits and less than the whole reserve, and is the
    quotient of the cost before the fee by what the fee leaves of it, and one unit more. -/
theorem swapInput_eq {amountOut reserveIn reserveOut feeBps cost : Int}
    (h : swapInput amountOut reserveIn reserveOut feeBps = .ok cost) :
    (0 ≤ amountOut ∧ amountOut < reserveOut) ∧ (0 ≤ reserveIn ∧ reserveIn ≤ u64Max) ∧
      reserveOut ≤ u64Max ∧ cost ≤ u64Max ∧
      quotient (reserveIn * amountOut * bpsWhole) ((reserveOut - amountOut) * (bpsWhole - feeBps)) =
        .ok (cost - 1) := by
  obtain ⟨_, checkedAmount, h⟩ := Except.of_bind_ok h
  obtain ⟨_, checkedIn, h⟩ := Except.of_bind_ok h
  obtain ⟨_, checkedOut, h⟩ := Except.of_bind_ok h
  obtain ⟨drains, judged, h⟩ := Except.of_bind_ok h
  cases judged
  by_cases drained : reserveOut ≤ amountOut
  · simp only [drained, decide_true, if_true] at h
    cases h
  simp only [drained, decide_false, Bool.false_eq_true, if_false] at h
  obtain ⟨product, multiplied, h⟩ := Except.of_bind_ok h
  obtain ⟨numerator, scaled, h⟩ := Except.of_bind_ok h
  obtain ⟨left, subtracted, h⟩ := Except.of_bind_ok h
  obtain ⟨rest, kept, h⟩ := Except.of_bind_ok h
  cases kept
  obtain ⟨denominator, shared, h⟩ := Except.of_bind_ok h
  obtain ⟨least, divided, h⟩ := Except.of_bind_ok h
  obtain ⟨total, added, h⟩ := Except.of_bind_ok h
  obtain ⟨same, fits⟩ := of_toU64_ok h
  rw [of_product_ok scaled, of_product_ok multiplied, of_product_ok shared,
    (of_difference_ok subtracted).2] at divided
  have more : least = cost - 1 := by
    have sum : total = least + 1 := of_sum_ok added
    omega
  rw [more] at divided
  exact ⟨⟨(of_amount_ok checkedAmount).2.1, Int.not_le.mp drained⟩, (of_amount_ok checkedIn).2,
    (of_amount_ok checkedOut).2.2, same ▸ fits, divided⟩

/-- Shares are minted for amounts of 64 bits, as many as the scarcer side earns. -/
theorem lpMint_eq {amountA amountB reserveA reserveB supply minted : Int}
    (h : lpMint amountA amountB reserveA reserveB supply = .ok minted) :
    (0 ≤ supply ∧ supply ≤ u64Max) ∧ (0 ≤ amountA ∧ amountA ≤ u64Max) ∧
      (0 ≤ amountB ∧ amountB ≤ u64Max) ∧
      ∃ shareA shareB, quotient (amountA * supply) reserveA = .ok shareA ∧
        quotient (amountB * supply) reserveB = .ok shareB ∧
        minted = Min.min shareA shareB ∧ minted ≤ u64Max := by
  obtain ⟨_, checkedSupply, h⟩ := Except.of_bind_ok h
  obtain ⟨a, checkedA, h⟩ := Except.of_bind_ok h
  obtain ⟨ofA, multipliedA, h⟩ := Except.of_bind_ok h
  obtain ⟨shareA, dividedA, h⟩ := Except.of_bind_ok h
  obtain ⟨b, checkedB, h⟩ := Except.of_bind_ok h
  obtain ⟨ofB, multipliedB, h⟩ := Except.of_bind_ok h
  obtain ⟨shareB, dividedB, h⟩ := Except.of_bind_ok h
  obtain ⟨least, chosen, h⟩ := Except.of_bind_ok h
  obtain ⟨sameA, boundsA⟩ := of_amount_ok checkedA
  obtain ⟨sameB, boundsB⟩ := of_amount_ok checkedB
  obtain ⟨same, fits⟩ := of_toU64_ok h
  rw [of_product_ok multipliedA, sameA] at dividedA
  rw [of_product_ok multipliedB, sameB] at dividedB
  rw [Quantity.min_int] at chosen
  cases chosen
  rw [same]
  exact ⟨(of_amount_ok checkedSupply).2, boundsA, boundsB, shareA, shareB, dividedA, dividedB,
    rfl, fits⟩

/-- The shares of a deposit are worth no more than what was put into either reserve. -/
theorem of_lpMint_ok {amountA amountB reserveA reserveB supply minted : Int}
    (nonnegA : 0 ≤ reserveA) (nonnegB : 0 ≤ reserveB)
    (h : lpMint amountA amountB reserveA reserveB supply = .ok minted) :
    0 ≤ amountA ∧ 0 ≤ amountB ∧ 0 ≤ minted ∧
      minted * reserveA ≤ amountA * supply ∧ minted * reserveB ≤ amountB * supply := by
  obtain ⟨⟨nonnegSupply, _⟩, ⟨nonnegAmountA, _⟩, ⟨nonnegAmountB, _⟩, shareA, shareB, dividedA,
    dividedB, least, _⟩ := lpMint_eq h
  have positiveA : 0 < reserveA := by
    have nonzero := (of_quotient_ok dividedA).1
    omega
  have positiveB : 0 < reserveB := by
    have nonzero := (of_quotient_ok dividedB).1
    omega
  have belowA := quotient_mul_le dividedA positiveA
  have belowB := quotient_mul_le dividedB positiveB
  have aboveA := quotient_nonneg dividedA (Int.mul_nonneg nonnegAmountA nonnegSupply) positiveA
  have aboveB := quotient_nonneg dividedB (Int.mul_nonneg nonnegAmountB nonnegSupply) positiveB
  refine ⟨nonnegAmountA, nonnegAmountB, by omega, ?_, ?_⟩
  · exact Int.le_trans (Int.mul_le_mul_of_nonneg_right (by omega) nonnegA) belowA
  · exact Int.le_trans (Int.mul_le_mul_of_nonneg_right (by omega) nonnegB) belowB

/-- Shares are burned out of a supply, and each reserve is paid out in their proportion. -/
theorem lpBurn_eq {burned reserveA reserveB supply outA outB : Int}
    (h : lpBurn burned reserveA reserveB supply = .ok (outA, outB)) :
    (0 ≤ burned ∧ burned ≤ u64Max) ∧ burned ≤ supply ∧
      (quotient (burned * reserveA) supply = .ok outA ∧ outA ≤ u64Max) ∧
      quotient (burned * reserveB) supply = .ok outB ∧ outB ≤ u64Max := by
  obtain ⟨_, checked, h⟩ := Except.of_bind_ok h
  obtain ⟨tooMany, judged, h⟩ := Except.of_bind_ok h
  cases judged
  by_cases large : supply < burned
  · simp only [large, decide_true, if_true] at h
    cases h
  simp only [large, decide_false, Bool.false_eq_true, if_false] at h
  obtain ⟨ofA, multipliedA, h⟩ := Except.of_bind_ok h
  obtain ⟨quotientA, dividedA, h⟩ := Except.of_bind_ok h
  obtain ⟨ofB, multipliedB, h⟩ := Except.of_bind_ok h
  obtain ⟨quotientB, dividedB, h⟩ := Except.of_bind_ok h
  obtain ⟨a, fitsA, h⟩ := Except.of_bind_ok h
  obtain ⟨b, fitsB, h⟩ := Except.of_bind_ok h
  cases h
  rw [of_product_ok multipliedA] at dividedA
  rw [of_product_ok multipliedB] at dividedB
  obtain ⟨rfl, fitsA⟩ := of_toU64_ok fitsA
  obtain ⟨rfl, fitsB⟩ := of_toU64_ok fitsB
  exact ⟨(of_amount_ok checked).2, Int.not_lt.mp large, ⟨dividedA, fitsA⟩, dividedB, fitsB⟩

/-- What burned shares are paid is no more than their part of either reserve. -/
theorem of_lpBurn_ok {burned reserveA reserveB supply : Int} {outs : Int × Int}
    (positive : 0 < supply) (h : lpBurn burned reserveA reserveB supply = .ok outs) :
    0 ≤ burned ∧ burned ≤ supply ∧
      outs.1 * supply ≤ burned * reserveA ∧ outs.2 * supply ≤ burned * reserveB := by
  obtain ⟨⟨nonneg, _⟩, owned, ⟨dividedA, _⟩, dividedB, _⟩ := lpBurn_eq h
  exact ⟨nonneg, owned, quotient_mul_le dividedA positive, quotient_mul_le dividedB positive⟩

/-- Burning pays out no less than nothing, and something can be burned only of some supply. -/
theorem lpBurn_nonneg {burned reserveA reserveB supply outA outB : Int} (nonnegA : 0 ≤ reserveA)
    (nonnegB : 0 ≤ reserveB) (h : lpBurn burned reserveA reserveB supply = .ok (outA, outB)) :
    0 < supply ∧ 0 ≤ outA ∧ 0 ≤ outB := by
  obtain ⟨⟨nonneg, _⟩, owned, ⟨dividedA, _⟩, dividedB, _⟩ := lpBurn_eq h
  have nonzero := (of_quotient_ok dividedA).1
  have positive : 0 < supply := by omega
  exact ⟨positive, quotient_nonneg dividedA (Int.mul_nonneg nonneg nonnegA) positive,
    quotient_nonneg dividedB (Int.mul_nonneg nonneg nonnegB) positive⟩

/-- What there is to gain between two prices, unless it is too large. -/
theorem profitBps_eq {low high : Int} (positive : 0 < low) (rises : low ≤ high) :
    profitBps low high =
      if u128Max < (high - low) * bpsWhole then
        refuse (.productTooLarge (.int (high - low)) (.int bpsWhole))
      else .ok ((high - low) * bpsWhole / low) := by
  rw [profitBps, difference_of_le rises, Quantity.ofInt_int, Except.ok_bind]
  split
  · rename_i large
    rw [product_of_lt large]
    rfl
  · rename_i small
    rw [product_of_le (Int.not_lt.mp small), Except.ok_bind, quotient_of_pos positive]

end ConstantProduct

end TradingEngine
