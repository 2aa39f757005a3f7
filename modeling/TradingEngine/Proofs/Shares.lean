import TradingEngine.Proofs.NoOverflow

/-! # Amounts for shares and back

Shares are minted for the side of a deposit that earns fewer of them, and they are paid their part
of either reserve; both are rounded down. So whoever burns what a deposit has minted gets back no
more than was put in, on either side, however lopsided the deposit was. An amount that is turned
into shares and back into the reserves is paid no more than it asks for, and falls short of it by
less than what one share is worth and one unit.
-/

namespace TradingEngine.ConstantProduct

open Checked

/-- Shares that are worth no more than an amount are paid no more than it. -/
theorem paid_le_of_worth {burned reserve supply amount out : Int} (positive : 0 < supply)
    (paid : quotient (burned * reserve) supply = .ok out)
    (worth : burned * reserve ≤ amount * supply) : out ≤ amount :=
  Int.le_of_mul_le_mul_right (Int.le_trans (quotient_mul_le paid positive) worth) positive

/-! ### Burning what a deposit has minted -/

/-- Shares that take no more than their part of a reserve take no more than their part of it with
    the deposit that has earned them. -/
theorem worth_after_deposit {minted reserve amount supply : Int}
    (earned : minted * reserve ≤ amount * supply) :
    minted * (reserve + amount) ≤ amount * (supply + minted) := by
  calc minted * (reserve + amount) = minted * reserve + amount * minted := by grind
    _ ≤ amount * supply + amount * minted := by omega
    _ = amount * (supply + minted) := by grind

/-- What a deposit mints takes no more than its part of either reserve, so it dilutes nobody; and
    burned again it is paid no more than was put in, on either side. It is always paid where the
    reserves with the deposit, and the supply with what it has minted, are amounts of 64 bits. -/
theorem minted_pays_at_most_deposit {amountA amountB reserveA reserveB supply minted : Int}
    (positiveA : 0 < reserveA) (positiveB : 0 < reserveB)
    (mint : lpMint amountA amountB reserveA reserveB supply = .ok minted) :
    (minted * reserveA ≤ amountA * supply ∧ minted * reserveB ≤ amountB * supply) ∧
    (∀ outA outB,
      lpBurn minted (reserveA + amountA) (reserveB + amountB) (supply + minted) =
        .ok (outA, outB) → outA ≤ amountA ∧ outB ≤ amountB) ∧
    (0 < supply → reserveA + amountA ≤ u64Max → reserveB + amountB ≤ u64Max →
      supply + minted ≤ u64Max → ∃ outs,
      lpBurn minted (reserveA + amountA) (reserveB + amountB) (supply + minted) = .ok outs) := by
  obtain ⟨nonnegA, nonnegB, nonneg, earnedA, earnedB⟩ :=
    of_lpMint_ok (Int.le_of_lt positiveA) (Int.le_of_lt positiveB) mint
  refine ⟨⟨earnedA, earnedB⟩, fun outA outB burn => ?_, fun owned fitsA fitsB fits => ?_⟩
  · obtain ⟨positive, _⟩ := lpBurn_nonneg (by omega) (by omega) burn
    obtain ⟨_, _, ⟨paidA, _⟩, paidB, _⟩ := lpBurn_eq burn
    exact ⟨paid_le_of_worth positive paidA (worth_after_deposit earnedA),
      paid_le_of_worth positive paidB (worth_after_deposit earnedB)⟩
  · exact ⟨_, lpBurn_of_range nonneg (by omega) (by omega) fits ⟨by omega, fitsA⟩
      ⟨by omega, fitsB⟩⟩

/-- A deposit that is lopsided by far earns a tenth of the supply, and gets back what it has put in
    of the scarcer side and a fifth of the other one. -/
theorem lopsided_pays_at_most_deposit :
    ((100 : Int) * 1000 ≤ 900 * 1000 ∧ (100 : Int) * 4000 ≤ 400 * 1000) ∧
      lpBurn (100 : Int) 1900 4400 1100 = .ok (172, 400) ∧
      (172 : Int) ≤ 900 ∧ (400 : Int) ≤ 400 := by
  have mint : lpMint (900 : Int) 400 1000 4000 1000 = .ok 100 := rfl
  have burn : lpBurn (100 : Int) 1900 4400 1100 = .ok (172, 400) := rfl
  obtain ⟨earned, paid, _⟩ := minted_pays_at_most_deposit (by decide) (by decide) mint
  exact ⟨earned, burn, paid 172 400 burn⟩

/-! ### Redeeming an amount -/

/-- An amount of the first reserve is turned into shares, and these are burned. -/
structure Redeems (amount reserveA reserveB supply burned outA outB : Int) : Prop where
  worth : quotient (amount * supply) reserveA = .ok burned
  paid : lpBurn burned reserveA reserveB supply = .ok (outA, outB)

namespace Redeems

variable {amount reserveA reserveB supply burned outA outB : Int}

/-- Both roundings are down, so no more is paid than was asked for. -/
theorem outA_le (redeems : Redeems amount reserveA reserveB supply burned outA outB)
    (reserve : 0 < reserveA) (positive : 0 < supply) : outA ≤ amount := by
  obtain ⟨_, _, ⟨paidA, _⟩, _⟩ := lpBurn_eq redeems.paid
  exact paid_le_of_worth positive paidA (quotient_mul_le redeems.worth reserve)

/-- What both roundings take is less than a share is worth and one unit. -/
theorem shortfall_lt (redeems : Redeems amount reserveA reserveB supply burned outA outB)
    (reserve : 0 < reserveA) (positive : 0 < supply) :
    (amount - outA - 1) * supply < reserveA := by
  obtain ⟨_, _, ⟨paidA, _⟩, _⟩ := lpBurn_eq redeems.paid
  have shares := lt_quotient_add_one_mul redeems.worth reserve
  have part := lt_quotient_add_one_mul paidA positive
  calc (amount - outA - 1) * supply = amount * supply - (outA + 1) * supply := by grind
    _ < (burned + 1) * reserveA - burned * reserveA := by omega
    _ = reserveA := by grind

/-- Of the second reserve no more is paid than goes with the amount. -/
theorem outB_mul_le (redeems : Redeems amount reserveA reserveB supply burned outA outB)
    (reserve : 0 < reserveA) (positive : 0 < supply) (nonneg : 0 ≤ reserveB) :
    outB * reserveA ≤ amount * reserveB := by
  obtain ⟨_, _, _, paidB, _⟩ := lpBurn_eq redeems.paid
  refine Int.le_of_mul_le_mul_right ?_ positive
  calc outB * reserveA * supply = outB * supply * reserveA := by grind
    _ ≤ burned * reserveB * reserveA :=
        Int.mul_le_mul_of_nonneg_right (quotient_mul_le paidB positive) (Int.le_of_lt reserve)
    _ = burned * reserveA * reserveB := by grind
    _ ≤ amount * supply * reserveB :=
        Int.mul_le_mul_of_nonneg_right (quotient_mul_le redeems.worth reserve) nonneg
    _ = amount * reserveB * supply := by grind

/-- Who asks for the whole reserve or more is paid all there is, if anything. -/
theorem all_paid (redeems : Redeems amount reserveA reserveB supply burned outA outB)
    (reserve : 0 < reserveA) (positive : 0 < supply) (whole : reserveA ≤ amount) :
    burned = supply ∧ outA = reserveA ∧ outB = reserveB := by
  obtain ⟨_, owned, ⟨paidA, _⟩, paidB, _⟩ := lpBurn_eq redeems.paid
  have every : supply ≤ burned := by
    rw [le_quotient_iff redeems.worth reserve, Int.mul_comm supply]
    exact Int.mul_le_mul_of_nonneg_right whole (Int.le_of_lt positive)
  obtain rfl : burned = supply := Int.le_antisymm owned every
  have nonzero : burned ≠ 0 := by omega
  refine ⟨rfl, ?_, ?_⟩
  · rw [(of_quotient_ok paidA).2, Int.mul_fdiv_cancel_left _ nonzero]
  · rw [(of_quotient_ok paidB).2, Int.mul_fdiv_cancel_left _ nonzero]

end Redeems

/-- What goes with an amount in the reserves after a proportional deposit of it is no more than the
    second amount of the deposit, though that was rounded down. -/
theorem le_proportional {amountA amountB reserveA reserveB out : Int} (asked : 0 ≤ amountA)
    (reserve : 0 < reserveA)
    (proportional : quotient (amountA * reserveB) reserveA = .ok amountB)
    (part : out * (reserveA + amountA) ≤ amountA * (reserveB + amountB)) : out ≤ amountB := by
  have rounded := lt_quotient_add_one_mul proportional reserve
  refine Int.lt_add_one_iff.mp (Int.lt_of_mul_lt_mul_right (a := reserveA + amountA) ?_ (by omega))
  calc out * (reserveA + amountA) ≤ amountA * (reserveB + amountB) := part
    _ = amountA * reserveB + amountA * amountB := by grind
    _ < (amountB + 1) * reserveA + amountA * amountB + amountA := by omega
    _ ≤ (amountB + 1) * (reserveA + amountA) := by grind

end TradingEngine.ConstantProduct
