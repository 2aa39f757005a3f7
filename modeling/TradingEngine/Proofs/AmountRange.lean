import Mathlib.Algebra.Order.Ring.Int
import TradingEngine.Proofs.NoOverflow
import TradingEngine.Proofs.Wording

/-! # Results that are amounts

Whatever whole numbers they are given, the routines of the pool arithmetic fail in no other way than
by overflowing, and what they return is never too large. It can be negative: the last check of a
result looks at its upper end only. What is left of an amount and what a swap pays are amounts of 64
bits all the same, since their operands are checked; a cost is negative under a fee of more than the
whole, and shares and withdrawals are negative for a negative reserve. `keeps_range_iff` says for
every call whether it is.
-/

namespace TradingEngine

/-- Whether a number is an unsigned 64-bit amount. -/
def IsAmount (n : Int) : Prop := 0 ≤ n ∧ n ≤ u64Max

/-- A computation that overflows, or returns a value in range. -/
def OverflowsOr {α : Type} (inRange : α → Prop) (r : Except Fault α) : Prop :=
  Overflows r ∨ ∃ a, r = .ok a ∧ inRange a

/-- A computation that fails in no other way keeps to the range unless a value escapes from it. -/
theorem Overflowing.or_iff_not {α : Type} {r : Except Fault α} {inRange : α → Prop}
    {Escapes : Prop} (overflows : Overflowing r)
    (escapes : Escapes → ∃ a, r = .ok a ∧ ¬inRange a)
    (only : ∀ a, r = .ok a → ¬inRange a → Escapes) : OverflowsOr inRange r ↔ ¬Escapes := by
  constructor
  · intro kept escaped
    obtain ⟨a, returned, outside⟩ := escapes escaped
    rcases kept with ⟨e, _, failed⟩ | ⟨b, alsoReturned, within⟩
    · cases failed.symm.trans returned
    · cases returned.symm.trans alsoReturned
      exact outside within
  · intro sound
    cases r with
    | ok a => exact .inr ⟨a, rfl, Classical.not_not.mp fun outside => sound (only a rfl outside)⟩
    | error f =>
        obtain ⟨cause, kind, rfl⟩ := overflows f rfl
        exact .inl ⟨⟨cause, none⟩, kind, rfl⟩

theorem Overflowing.or_of_ok {α : Type} {r : Except Fault α} {inRange : α → Prop}
    (overflows : Overflowing r) (each : ∀ a, r = .ok a → inRange a) : OverflowsOr inRange r := by
  have never : OverflowsOr inRange r ↔ ¬False :=
    overflows.or_iff_not nofun fun a returned outside => outside (each a returned)
  exact never.mpr id

theorem not_isAmount_iff {n : Int} (fits : n ≤ u64Max) : ¬IsAmount n ↔ n < 0 := by
  simp only [IsAmount]
  omega

namespace Checked

variable {a b n : Int}

/-- A negative divisor turns the comparison with a quotient round. -/
theorem le_quotient_iff_of_neg {m : Int} (h : quotient a b = .ok n) (negative : b < 0) :
    m ≤ n ↔ a ≤ m * b := by
  rw [(of_quotient_ok h).2, ← Int.neg_fdiv_neg, Int.fdiv_eq_ediv_of_nonneg _ (by omega),
    Int.le_ediv_iff_mul_le (by omega), Int.mul_neg, Int.neg_le_neg_iff]

theorem quotient_nonneg_iff (h : quotient a b = .ok n) (dividend : 0 ≤ a) :
    0 ≤ n ↔ 0 < b ∨ a = 0 := by
  by_cases positive : 0 < b
  · exact iff_of_true (quotient_nonneg h dividend positive) (.inl positive)
  · have nonzero := (of_quotient_ok h).1
    rw [le_quotient_iff_of_neg h (by omega), Int.zero_mul]
    omega

end Checked

namespace ConstantProduct

open Checked

/-! ### Fees and swaps -/

theorem haircut_inRange (value bps : Int) : OverflowsOr IsAmount (haircut value bps) := by
  refine (haircut_overflows value bps).or_of_ok fun kept h => ?_
  obtain ⟨⟨_, small⟩, _⟩ := haircut_eq h
  obtain ⟨_, nonneg, below⟩ := of_haircut_ok h
  exact ⟨nonneg, Int.le_trans below small⟩

theorem swapOutput_inRange (amountIn reserveIn reserveOut feeBps : Int) :
    OverflowsOr IsAmount (swapOutput amountIn reserveIn reserveOut feeBps) :=
  (swapOutput_overflows amountIn reserveIn reserveOut feeBps).or_of_ok fun _ h =>
    (swapOutput_bounds h).2

/-! ### Costs -/

/-- A fee of more than the whole turns the sign of what a swap costs, and the unit that is added to
    it does not make up for it. -/
structure CostsBelowZero (amountOut reserveIn reserveOut feeBps : Int) : Prop where
  within : 0 ≤ amountOut ∧ amountOut < reserveOut
  incoming : IsAmount reserveIn
  small : reserveOut ≤ u64Max
  fits : reserveIn * amountOut * bpsWhole ≤ u128Max
  fee : bpsWhole < feeBps
  more : (reserveOut - amountOut) * (feeBps - bpsWhole) < reserveIn * amountOut * bpsWhole

variable {amountOut reserveIn reserveOut feeBps cost : Int}

/-- Under such a fee the cost is quoted nonetheless. -/
theorem CostsBelowZero.quoted
    (below : CostsBelowZero amountOut reserveIn reserveOut feeBps) :
    ∃ cost, swapInput amountOut reserveIn reserveOut feeBps = .ok cost ∧ cost < 0 := by
  obtain ⟨within, incoming, small, fits, fee, more⟩ := below
  have amount : 0 ≤ amountOut ∧ amountOut ≤ u64Max := by omega
  have outgoing : 0 ≤ reserveOut ∧ reserveOut ≤ u64Max := by omega
  have negative : (reserveOut - amountOut) * (bpsWhole - feeBps) < 0 :=
    Int.mul_neg_of_pos_of_neg (by omega) (by omega)
  have least := quotient_of_ne (a := reserveIn * amountOut * bpsWhole) (Int.ne_of_lt negative)
  -- One unit is added to the quotient, so it has to be below -1 for the cost to be below 0.
  have short := le_quotient_iff_of_neg (m := -1) least negative
  have turned : (reserveOut - amountOut) * (feeBps - bpsWhole) =
      -1 * ((reserveOut - amountOut) * (bpsWhole - feeBps)) := by grind
  rw [turned] at more
  generalize (reserveIn * amountOut * bpsWhole).fdiv _ = lowest at *
  have cost : lowest + 1 < 0 := by omega
  refine ⟨lowest + 1, ?_, cost⟩
  simp only [swapInput, amount_of_range _ amount, amount_of_range _ incoming,
    amount_of_range _ outgoing, Except.ok_bind, Quantity.le_int, decide_eq_true_eq,
    Quantity.ofInt_int, product_of_range incoming amount, product_of_le fits,
    difference_of_le (Int.le_of_lt within.2), keptBps, Quantity.sub_int]
  rw [if_neg (Int.not_le.mpr within.2)]
  simp only [product_of_le (Int.le_trans (Int.le_of_lt negative) (by decide)), Except.ok_bind,
    least, sum_of_le (Int.le_trans (Int.le_of_lt cost) (by decide)),
    toU64_of_le (Int.le_trans (Int.le_of_lt cost) (by decide))]

/-- What a quoted cost is worked out from fits into 128 bits. -/
theorem swapInput_fits (h : swapInput amountOut reserveIn reserveOut feeBps = .ok cost) :
    reserveIn * amountOut * bpsWhole ≤ u128Max := by
  obtain ⟨_, _, h⟩ := Except.of_bind_ok h
  obtain ⟨_, _, h⟩ := Except.of_bind_ok h
  obtain ⟨_, _, h⟩ := Except.of_bind_ok h
  obtain ⟨drains, _, h⟩ := Except.of_bind_ok h
  cases drains with
  | true => cases h
  | false =>
      obtain ⟨worth, multiplied, h⟩ := Except.of_bind_ok h
      obtain ⟨_, scaled, _⟩ := Except.of_bind_ok h
      rw [of_product_ok multiplied] at scaled
      exact le_of_product_ok scaled

/-- A cost below zero is quoted only under such a fee. -/
theorem CostsBelowZero.of_quoted
    (h : swapInput amountOut reserveIn reserveOut feeBps = .ok cost) (negative : cost < 0) :
    CostsBelowZero amountOut reserveIn reserveOut feeBps := by
  obtain ⟨within, incoming, small, _, divided⟩ := swapInput_eq h
  have worth : 0 ≤ reserveIn * amountOut * bpsWhole :=
    Int.mul_nonneg (Int.mul_nonneg incoming.1 within.1) (by decide)
  have turned : (reserveOut - amountOut) * (bpsWhole - feeBps) < 0 := by
    refine Int.lt_of_not_ge fun nonneg => ?_
    have nonzero := (of_quotient_ok divided).1
    have least := quotient_nonneg divided worth (by omega)
    omega
  have fee : bpsWhole - feeBps < 0 :=
    Int.lt_of_mul_lt_mul_left (a := reserveOut - amountOut) (by rwa [Int.mul_zero]) (by omega)
  have short := le_quotient_iff_of_neg (m := -1) divided turned
  refine ⟨within, incoming, small, swapInput_fits h, by omega, ?_⟩
  calc (reserveOut - amountOut) * (feeBps - bpsWhole)
      = -1 * ((reserveOut - amountOut) * (bpsWhole - feeBps)) := by grind
    _ < reserveIn * amountOut * bpsWhole := by omega

theorem swapInput_inRange_iff (amountOut reserveIn reserveOut feeBps : Int) :
    OverflowsOr IsAmount (swapInput amountOut reserveIn reserveOut feeBps) ↔
      ¬CostsBelowZero amountOut reserveIn reserveOut feeBps := by
  refine (swapInput_overflows _ _ _ _).or_iff_not (fun below => ?_) fun cost h outside => ?_
  · obtain ⟨cost, quoted, negative⟩ := below.quoted
    exact ⟨cost, quoted, fun range => absurd range.1 (Int.not_le.mpr negative)⟩
  · obtain ⟨_, _, _, fits, _⟩ := swapInput_eq h
    exact .of_quoted h ((not_isAmount_iff fits).mp outside)

/-! ### Shares -/

/-- An amount is worth a negative share of a negative reserve, and the least share is minted. -/
structure MintsBelowZero (amountA amountB reserveA reserveB supply : Int) : Prop where
  rangeA : IsAmount amountA
  rangeB : IsAmount amountB
  shares : 0 < supply ∧ supply ≤ u64Max
  divisors : reserveA ≠ 0 ∧ reserveB ≠ 0
  negative : (reserveA < 0 ∧ 0 < amountA) ∨ (reserveB < 0 ∧ 0 < amountB)

variable {amountA amountB reserveA reserveB supply minted : Int}

/-- A share is negative just if the reserve is and there is something to share. -/
theorem share_neg_iff {amount reserve share : Int} (nonneg : 0 ≤ amount) (shares : 0 ≤ supply)
    (h : quotient (amount * supply) reserve = .ok share) :
    share < 0 ↔ reserve < 0 ∧ 0 < amount ∧ 0 < supply := by
  have nonzero := (of_quotient_ok h).1
  rw [← Int.not_le, quotient_nonneg_iff h (Int.mul_nonneg nonneg shares), Int.mul_eq_zero]
  omega

/-- Out of such reserves shares are minted nonetheless. -/
theorem MintsBelowZero.granted
    (below : MintsBelowZero amountA amountB reserveA reserveB supply) :
    ∃ minted, lpMint amountA amountB reserveA reserveB supply = .ok minted ∧ minted < 0 := by
  obtain ⟨rangeA, rangeB, ⟨positive, small⟩, ⟨divisorA, divisorB⟩, negative⟩ := below
  have shares : 0 ≤ supply ∧ supply ≤ u64Max := ⟨Int.le_of_lt positive, small⟩
  have shareA := quotient_of_ne (a := amountA * supply) divisorA
  have shareB := quotient_of_ne (a := amountB * supply) divisorB
  have signA := share_neg_iff rangeA.1 shares.1 shareA
  have signB := share_neg_iff rangeB.1 shares.1 shareB
  generalize (amountA * supply).fdiv reserveA = a at *
  generalize (amountB * supply).fdiv reserveB = b at *
  have least : Min.min a b < 0 := by omega
  refine ⟨_, ?_, least⟩
  simp only [lpMint, amount_of_range _ shares, amount_of_range _ rangeA, amount_of_range _ rangeB,
    Except.ok_bind, product_of_range rangeA shares, product_of_range rangeB shares, shareA, shareB,
    Quantity.min_int, toU64_of_le (Int.le_trans (Int.le_of_lt least) (by decide))]

/-- Shares below zero are minted only out of such reserves. -/
theorem MintsBelowZero.of_granted
    (h : lpMint amountA amountB reserveA reserveB supply = .ok minted) (negative : minted < 0) :
    MintsBelowZero amountA amountB reserveA reserveB supply := by
  obtain ⟨⟨nonneg, small⟩, rangeA, rangeB, a, b, shareA, shareB, least, _⟩ := lpMint_eq h
  have signA := share_neg_iff rangeA.1 nonneg shareA
  have signB := share_neg_iff rangeB.1 nonneg shareB
  exact ⟨rangeA, rangeB, ⟨by omega, small⟩, ⟨(of_quotient_ok shareA).1, (of_quotient_ok shareB).1⟩,
    by omega⟩

theorem lpMint_inRange_iff (amountA amountB reserveA reserveB supply : Int) :
    OverflowsOr IsAmount (lpMint amountA amountB reserveA reserveB supply) ↔
      ¬MintsBelowZero amountA amountB reserveA reserveB supply := by
  refine (lpMint_overflows _ _ _ _ _).or_iff_not (fun below => ?_) fun minted h outside => ?_
  · obtain ⟨minted, granted, negative⟩ := below.granted
    exact ⟨minted, granted, fun range => absurd range.1 (Int.not_le.mpr negative)⟩
  · obtain ⟨_, _, _, _, _, _, _, _, fits⟩ := lpMint_eq h
    exact .of_granted h ((not_isAmount_iff fits).mp outside)

/-! ### Withdrawals -/

/-- Shares are paid their part of a negative reserve. -/
structure PaysBelowZero (burned reserveA reserveB supply : Int) : Prop where
  shares : 0 < burned ∧ burned ≤ u64Max
  owned : burned ≤ supply
  partA : Payable burned reserveA supply
  partB : Payable burned reserveB supply
  negative : reserveA < 0 ∨ reserveB < 0

variable {burned outA outB : Int}

/-- What is paid of a reserve is negative just if the reserve is and something is burned. -/
theorem part_neg_iff (reserve : Int) (nonneg : 0 ≤ burned) (positive : 0 < supply) :
    burned * reserve / supply < 0 ↔ reserve < 0 ∧ 0 < burned := by
  rw [Int.ediv_lt_iff_lt_mul positive, Int.zero_mul, mul_neg_iff]
  omega

/-- Shares that are paid are paid parts that fit. -/
theorem lpBurn_payable (h : lpBurn burned reserveA reserveB supply = .ok (outA, outB)) :
    0 < supply ∧ (Payable burned reserveA supply ∧ outA = burned * reserveA / supply) ∧
      Payable burned reserveB supply ∧ outB = burned * reserveB / supply := by
  obtain ⟨⟨nonneg, _⟩, owned, ⟨dividedA, paidA⟩, dividedB, paidB⟩ := lpBurn_eq h
  have nonzero := (of_quotient_ok dividedA).1
  have positive : 0 < supply := by omega
  cases (quotient_of_pos positive).symm.trans dividedA
  cases (quotient_of_pos positive).symm.trans dividedB
  obtain ⟨_, _, h⟩ := Except.of_bind_ok h
  obtain ⟨tooMany, _, h⟩ := Except.of_bind_ok h
  cases tooMany with
  | true => cases h
  | false =>
      obtain ⟨_, multipliedA, h⟩ := Except.of_bind_ok h
      obtain ⟨_, _, h⟩ := Except.of_bind_ok h
      obtain ⟨_, multipliedB, _⟩ := Except.of_bind_ok h
      exact ⟨positive, ⟨⟨le_of_product_ok multipliedA, paidA⟩, rfl⟩,
        ⟨le_of_product_ok multipliedB, paidB⟩, rfl⟩

theorem lpBurn_inRange_iff (burned reserveA reserveB supply : Int) :
    OverflowsOr (fun outs => IsAmount outs.1 ∧ IsAmount outs.2)
        (lpBurn burned reserveA reserveB supply) ↔
      ¬PaysBelowZero burned reserveA reserveB supply := by
  refine (lpBurn_overflows _ _ _ _).or_iff_not (fun below => ?_) fun (outA, outB) h outside => ?_
  · obtain ⟨⟨burns, small⟩, owned, partA, partB, negative⟩ := below
    have positive : 0 < supply := Int.lt_of_lt_of_le burns owned
    have nonneg := Int.le_of_lt burns
    refine ⟨_, lpBurn_of_payable ⟨nonneg, small⟩ owned positive partA partB, ?_⟩
    rintro ⟨⟨lowA, _⟩, lowB, _⟩
    have signA := part_neg_iff reserveA nonneg positive
    have signB := part_neg_iff reserveB nonneg positive
    dsimp only at lowA lowB
    omega
  · obtain ⟨⟨nonneg, small⟩, owned, _⟩ := lpBurn_eq h
    obtain ⟨positive, ⟨partA, rfl⟩, partB, rfl⟩ := lpBurn_payable h
    have signA := part_neg_iff reserveA nonneg positive
    have signB := part_neg_iff reserveB nonneg positive
    dsimp only at outside
    rw [Classical.not_and_iff_not_or_not, not_isAmount_iff partA.paid, not_isAmount_iff partB.paid,
      signA, signB] at outside
    exact ⟨⟨by omega, small⟩, owned, partA, partB, by omega⟩

/-! ### All of them -/

/-- A call of the arithmetic that returns amounts, with whatever whole numbers it is given. -/
inductive Calculation where
  | haircut (value bps : Int)
  | swapOutput (amountIn reserveIn reserveOut feeBps : Int)
  | swapInput (amountOut reserveIn reserveOut feeBps : Int)
  | lpMint (amountA amountB reserveA reserveB supply : Int)
  | lpBurn (burned reserveA reserveB supply : Int)

namespace Calculation

/-- Whether a call overflows, or returns nothing but amounts. -/
def KeepsRange : Calculation → Prop
  | haircut value bps => OverflowsOr IsAmount (ConstantProduct.haircut value bps)
  | swapOutput amountIn reserveIn reserveOut feeBps =>
    OverflowsOr IsAmount (ConstantProduct.swapOutput amountIn reserveIn reserveOut feeBps)
  | swapInput amountOut reserveIn reserveOut feeBps =>
    OverflowsOr IsAmount (ConstantProduct.swapInput amountOut reserveIn reserveOut feeBps)
  | lpMint amountA amountB reserveA reserveB supply =>
    OverflowsOr IsAmount (ConstantProduct.lpMint amountA amountB reserveA reserveB supply)
  | lpBurn burned reserveA reserveB supply =>
    OverflowsOr (fun outs => IsAmount outs.1 ∧ IsAmount outs.2)
      (ConstantProduct.lpBurn burned reserveA reserveB supply)

/-- The calls that return a number below zero. -/
def FallsBelowZero : Calculation → Prop
  | haircut .. | swapOutput .. => False
  | swapInput amountOut reserveIn reserveOut feeBps =>
    CostsBelowZero amountOut reserveIn reserveOut feeBps
  | lpMint amountA amountB reserveA reserveB supply =>
    MintsBelowZero amountA amountB reserveA reserveB supply
  | lpBurn burned reserveA reserveB supply => PaysBelowZero burned reserveA reserveB supply

/-- Whatever whole numbers it is given, a call overflows or returns nothing but amounts of 64 bits,
    except where a fee of more than the whole or a negative reserve takes its result below zero. -/
theorem keeps_range_iff (call : Calculation) : call.KeepsRange ↔ ¬call.FallsBelowZero := by
  cases call with
  | haircut value bps => exact iff_of_true (haircut_inRange value bps) id
  | swapOutput amountIn reserveIn reserveOut feeBps =>
      exact iff_of_true (swapOutput_inRange amountIn reserveIn reserveOut feeBps) id
  | swapInput amountOut reserveIn reserveOut feeBps =>
      exact swapInput_inRange_iff amountOut reserveIn reserveOut feeBps
  | lpMint amountA amountB reserveA reserveB supply =>
      exact lpMint_inRange_iff amountA amountB reserveA reserveB supply
  | lpBurn burned reserveA reserveB supply =>
      exact lpBurn_inRange_iff burned reserveA reserveB supply

/-- Under a fee of twice the whole, 90 units of a pool of 1000 on either side are quoted at less
    than nothing; and so are the shares and the payment of a pool that holds less than nothing. -/
theorem results_below_zero :
    ConstantProduct.swapInput (90 : Int) 1000 1000 20000 = .ok (-98) ∧
      ConstantProduct.lpMint (5 : Int) 5 (-10) 10 10 = .ok (-5) ∧
      ConstantProduct.lpBurn (5 : Int) (-10) 10 10 = .ok (-5, 5) ∧
      ¬∀ call : Calculation, call.KeepsRange := by
  have cost : ConstantProduct.swapInput (90 : Int) 1000 1000 20000 = .ok (-98) := rfl
  refine ⟨cost, rfl, rfl, fun always => ?_⟩
  rcases always (.swapInput 90 1000 1000 20000) with ⟨e, _, failed⟩ | ⟨paid, returned, range, _⟩
  · cases cost.symm.trans failed
  · cases cost.symm.trans returned
    exact absurd range (by decide)

end Calculation

end ConstantProduct

end TradingEngine
