import TradingEngine.Proofs.ConstantProduct

/-! # Where nothing overflows

A product of amounts of 64 bits fits into 128 bits, and no more is paid of a reserve than the
reserve. So a swap between such amounts is quoted unless there is nothing to divide by, and shares
of a supply that is theirs are paid.
-/

namespace TradingEngine

namespace Checked

variable {a b n : Int}

theorem amount_of_range (operand : String) (range : 0 ≤ n ∧ n ≤ u64Max) :
    amount operand n = .ok n := by
  simp only [amount, Quantity.whole?_int, Bool.or_eq_true, decide_eq_true_eq]
  exact if_neg (by omega)

theorem sum_of_le (h : a + b ≤ u128Max) : sum a b = .ok (a + b) := by
  simp only [sum, addUpTo, Quantity.add_int, Quantity.ofInt_int, Quantity.lt_int, Except.ok_bind,
    decide_eq_true_eq]
  rw [if_neg (Int.not_lt.mpr h)]
  rfl

theorem product_le_of_range (first : 0 ≤ a ∧ a ≤ u64Max) (second : 0 ≤ b ∧ b ≤ u64Max) :
    a * b ≤ u128Max := by
  calc a * b ≤ u64Max * u64Max := Int.mul_le_mul first.2 second.2 second.1 (by decide)
    _ ≤ u128Max := by decide

theorem product_of_range (first : 0 ≤ a ∧ a ≤ u64Max) (second : 0 ≤ b ∧ b ≤ u64Max) :
    product a b = .ok (a * b) :=
  product_of_le (product_le_of_range first second)

/-- A part of an amount is no more than the amount. -/
theorem part_le {part whole : Int} (nonneg : 0 ≤ n) (within : part ≤ whole) (positive : 0 < whole) :
    part * n / whole ≤ n := by
  refine Int.ediv_le_of_le_mul positive ?_
  rw [Int.mul_comm n]
  exact Int.mul_le_mul_of_nonneg_right within nonneg

end Checked

namespace ConstantProduct

open Checked

theorem haircut_of_range {value bps : Int} (range : 0 ≤ value ∧ value ≤ u64Max)
    (share : 0 ≤ bps ∧ bps ≤ bpsWhole) :
    haircut value bps = .ok (value * (bpsWhole - bps) / bpsWhole) := by
  have rest : 0 ≤ bpsWhole - bps ∧ bpsWhole - bps ≤ u64Max := by
    simp only [bpsWhole, u64Max] at *
    omega
  have fits : value * (bpsWhole - bps) / bpsWhole ≤ u64Max := by
    rw [Int.mul_comm]
    exact Int.le_trans (part_le range.1 (by omega) (by decide)) range.2
  simp only [haircut, amount_of_range _ range, Except.ok_bind, Quantity.lt_int, Quantity.ofInt_int,
    decide_eq_true_eq]
  rw [if_neg (Int.not_lt.mpr share.1), if_neg (Int.not_lt.mpr share.2)]
  simp only [keptBps, Quantity.sub_int, Quantity.ofInt_int, Except.ok_bind,
    product_of_range range rest, quotient_of_pos (by decide : (0 : Int) < bpsWhole),
    toU64_of_le fits]

/-- A swap is quoted unless there is nothing to divide by. -/
theorem swapOutput_of_range {amountIn reserveIn reserveOut feeBps net : Int}
    (amount : 0 ≤ amountIn ∧ amountIn ≤ u64Max) (incoming : 0 ≤ reserveIn ∧ reserveIn ≤ u64Max)
    (outgoing : 0 ≤ reserveOut ∧ reserveOut ≤ u64Max) (kept : haircut amountIn feeBps = .ok net)
    (positive : 0 < reserveIn + net) :
    swapOutput amountIn reserveIn reserveOut feeBps =
      .ok (net * reserveOut / (reserveIn + net)) := by
  obtain ⟨_, nonneg, below⟩ := of_haircut_ok kept
  have small : 0 ≤ net ∧ net ≤ u64Max := ⟨nonneg, Int.le_trans below amount.2⟩
  have total : reserveIn + net ≤ u128Max := by
    simp only [u64Max, u128Max] at *
    omega
  have fits : net * reserveOut / (reserveIn + net) ≤ u64Max :=
    Int.le_trans (part_le outgoing.1 (by omega) positive) outgoing.2
  simp only [swapOutput, amount_of_range _ amount, amount_of_range _ incoming,
    amount_of_range _ outgoing, kept, Except.ok_bind, product_of_range small outgoing,
    sum_of_le total, quotient_of_pos positive, toU64_of_le fits]

/-- A part of a reserve that fits, as a product and as what is paid. -/
structure Payable (burned reserve supply : Int) : Prop where
  product : burned * reserve ≤ u128Max
  paid : burned * reserve / supply ≤ u64Max

/-- Shares of a supply are paid if their parts of the reserves fit. -/
theorem lpBurn_of_payable {burned reserveA reserveB supply : Int}
    (shares : 0 ≤ burned ∧ burned ≤ u64Max) (owned : burned ≤ supply) (positive : 0 < supply)
    (partA : Payable burned reserveA supply) (partB : Payable burned reserveB supply) :
    lpBurn burned reserveA reserveB supply =
      .ok (burned * reserveA / supply, burned * reserveB / supply) := by
  simp only [lpBurn, amount_of_range _ shares, Except.ok_bind, Quantity.lt_int, decide_eq_true_eq]
  rw [if_neg (Int.not_lt.mpr owned)]
  simp only [product_of_le partA.product, product_of_le partB.product, Except.ok_bind,
    quotient_of_pos positive, toU64_of_le partA.paid, toU64_of_le partB.paid]
  rfl

/-- Shares of a supply are paid if the reserves are amounts of 64 bits. -/
theorem lpBurn_of_range {burned reserveA reserveB supply : Int} (nonneg : 0 ≤ burned)
    (owned : burned ≤ supply) (positive : 0 < supply) (small : supply ≤ u64Max)
    (rangeA : 0 ≤ reserveA ∧ reserveA ≤ u64Max) (rangeB : 0 ≤ reserveB ∧ reserveB ≤ u64Max) :
    lpBurn burned reserveA reserveB supply =
      .ok (burned * reserveA / supply, burned * reserveB / supply) := by
  have shares : 0 ≤ burned ∧ burned ≤ u64Max := ⟨nonneg, Int.le_trans owned small⟩
  have part {reserve : Int} (range : 0 ≤ reserve ∧ reserve ≤ u64Max) :
      Payable burned reserve supply :=
    ⟨product_le_of_range shares range, Int.le_trans (part_le range.1 owned positive) range.2⟩
  exact lpBurn_of_payable shares owned positive (part rangeA) (part rangeB)

end ConstantProduct

end TradingEngine
