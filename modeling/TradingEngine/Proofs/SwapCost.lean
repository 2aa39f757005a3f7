import TradingEngine.Proofs.NoOverflow

/-! # What a swap costs

The cost of a swap is quoted as the least input before the fee, rounded down, and one unit more. The
swap itself first takes its fee and rounds what the fee leaves, and this second rounding can take
more than the unit: the quoted input suffices exactly where what is left of it still reaches the
requested output. It never asks for more than one unit beyond the least input that suffices.
-/

namespace TradingEngine.ConstantProduct

open Checked

variable {amountIn amountOut reserveIn reserveOut feeBps net cost paid : Int}

/-- A swap pays a requested output just when what the fee leaves of the input reaches it. -/
theorem le_swapOutput_iff (swapped : swapOutput amountIn reserveIn reserveOut feeBps = .ok paid)
    (kept : haircut amountIn feeBps = .ok net) :
    amountOut ≤ paid ↔ amountOut * reserveIn ≤ net * (reserveOut - amountOut) := by
  obtain ⟨_, _, _, left, alsoKept, positive, divided⟩ := swapOutput_eq swapped
  cases kept.symm.trans alsoKept
  rw [le_quotient_iff divided positive]
  constructor
  · intro covered
    calc amountOut * reserveIn = amountOut * (reserveIn + net) - amountOut * net := by grind
      _ ≤ net * reserveOut - amountOut * net := by omega
      _ = net * (reserveOut - amountOut) := by grind
  · intro covered
    calc amountOut * (reserveIn + net) = amountOut * reserveIn + amountOut * net := by grind
      _ ≤ net * (reserveOut - amountOut) + amountOut * net := by omega
      _ = net * reserveOut := by grind

/-- Before any fee is rounded, the quoted input is more than enough. -/
theorem lt_swapInput (priced : swapInput amountOut reserveIn reserveOut feeBps = .ok cost)
    (share : feeBps < bpsWhole) :
    amountOut * reserveIn * bpsWhole < cost * (bpsWhole - feeBps) * (reserveOut - amountOut) := by
  obtain ⟨⟨_, within⟩, _, _, _, divided⟩ := swapInput_eq priced
  have positive : 0 < (reserveOut - amountOut) * (bpsWhole - feeBps) :=
    Int.mul_pos (by omega) (by omega)
  have above := (quotient_lt_iff divided positive).mp (by omega : cost - 1 < cost)
  calc amountOut * reserveIn * bpsWhole = reserveIn * amountOut * bpsWhole := by grind
    _ < cost * ((reserveOut - amountOut) * (bpsWhole - feeBps)) := above
    _ = cost * (bpsWhole - feeBps) * (reserveOut - amountOut) := by grind

/-- An input whose fee leaves at least the unrounded rest of the quoted input suffices. -/
theorem le_paid_of_kept (priced : swapInput amountOut reserveIn reserveOut feeBps = .ok cost)
    (swapped : swapOutput amountIn reserveIn reserveOut feeBps = .ok paid)
    (kept : haircut amountIn feeBps = .ok net) (share : feeBps < bpsWhole)
    (left : cost * (bpsWhole - feeBps) ≤ net * bpsWhole) : amountOut ≤ paid := by
  obtain ⟨⟨_, within⟩, _⟩ := swapInput_eq priced
  rw [le_swapOutput_iff swapped kept]
  refine Int.le_of_lt (Int.lt_of_mul_lt_mul_right (a := bpsWhole) ?_ (by decide))
  calc amountOut * reserveIn * bpsWhole
      < cost * (bpsWhole - feeBps) * (reserveOut - amountOut) := lt_swapInput priced share
    _ ≤ net * bpsWhole * (reserveOut - amountOut) :=
        Int.mul_le_mul_of_nonneg_right left (by omega)
    _ = net * (reserveOut - amountOut) * bpsWhole := by grind

/-- Where what the fee leaves is not rounded, the quoted input suffices. -/
theorem le_paid_of_no_fee (priced : swapInput amountOut reserveIn reserveOut 0 = .ok cost)
    (swapped : swapOutput cost reserveIn reserveOut 0 = .ok paid) : amountOut ≤ paid := by
  obtain ⟨_, _, _, net, kept, _⟩ := swapOutput_eq swapped
  refine le_paid_of_kept priced swapped kept (by decide) ?_
  have whole : cost ≤ net := by
    rw [le_quotient_iff (haircut_eq kept).2.2 (by decide)]
    simp
  exact Int.mul_le_mul_of_nonneg_right whole (by decide)

/-- Where the output is worth a whole number of units before the fee, the quoted input suffices. -/
theorem le_paid_of_dvd (priced : swapInput amountOut reserveIn reserveOut feeBps = .ok cost)
    (swapped : swapOutput cost reserveIn reserveOut feeBps = .ok paid) (share : feeBps < bpsWhole)
    (exact : (reserveOut - amountOut) ∣ amountOut * reserveIn) : amountOut ≤ paid := by
  obtain ⟨⟨_, within⟩, _⟩ := swapInput_eq priced
  obtain ⟨_, _, _, net, kept, _⟩ := swapOutput_eq swapped
  obtain ⟨worth, worthEq⟩ := exact
  have left : 0 < reserveOut - amountOut := by omega
  have reached : worth * bpsWhole < cost * (bpsWhole - feeBps) := by
    refine Int.lt_of_mul_lt_mul_right (a := reserveOut - amountOut) ?_ (Int.le_of_lt left)
    calc worth * bpsWhole * (reserveOut - amountOut)
        = amountOut * reserveIn * bpsWhole := by rw [worthEq]; grind
      _ < cost * (bpsWhole - feeBps) * (reserveOut - amountOut) := lt_swapInput priced share
  have enough : worth ≤ net := by
    rw [le_quotient_iff (haircut_eq kept).2.2 (by decide)]
    exact Int.le_of_lt reached
  rw [le_swapOutput_iff swapped kept, worthEq, Int.mul_comm]
  exact Int.mul_le_mul_of_nonneg_right enough (Int.le_of_lt left)

/-- Units of which the fee leaves a whole one make up for what the rounding takes. -/
theorem le_paid_of_more {more : Int}
    (priced : swapInput amountOut reserveIn reserveOut feeBps = .ok cost)
    (swapped : swapOutput (cost + more) reserveIn reserveOut feeBps = .ok paid)
    (share : feeBps < bpsWhole) (whole : bpsWhole ≤ more * (bpsWhole - feeBps)) :
    amountOut ≤ paid := by
  obtain ⟨_, _, _, net, kept, _⟩ := swapOutput_eq swapped
  refine le_paid_of_kept priced swapped kept share ?_
  have rounded := lt_quotient_add_one_mul (haircut_eq kept).2.2 (by decide)
  have spread : (cost + more) * (bpsWhole - feeBps) =
      cost * (bpsWhole - feeBps) + more * (bpsWhole - feeBps) := Int.add_mul ..
  have unit : (net + 1) * bpsWhole = net * bpsWhole + bpsWhole := by rw [Int.add_mul, Int.one_mul]
  omega

/-- The fee of a swap that is priced and paid is less than the whole. -/
theorem fee_lt_whole (priced : swapInput amountOut reserveIn reserveOut feeBps = .ok cost)
    (swapped : swapOutput amountIn reserveIn reserveOut feeBps = .ok paid) :
    feeBps < bpsWhole := by
  obtain ⟨_, _, _, _, divided⟩ := swapInput_eq priced
  obtain ⟨_, _, _, _, kept, _⟩ := swapOutput_eq swapped
  have nonzero := Int.mul_ne_zero_iff.mp (of_quotient_ok divided).1
  have bounded := (haircut_eq kept).2.1
  omega

/-- The input quoted for an output suffices exactly where what the fee leaves of it, rounded down,
    still reaches the output. So it does without a fee, and where the output is worth a whole number
    of units before the fee; and where it does not, units of which the fee leaves a whole one make
    up for it. -/
theorem swapInput_suffices_iff
    (priced : swapInput amountOut reserveIn reserveOut feeBps = .ok cost)
    (swapped : swapOutput cost reserveIn reserveOut feeBps = .ok paid) :
    (amountOut ≤ paid ↔ amountOut * reserveIn ≤
      cost * (bpsWhole - feeBps) / bpsWhole * (reserveOut - amountOut)) ∧
    (feeBps = 0 ∨ (reserveOut - amountOut) ∣ amountOut * reserveIn → amountOut ≤ paid) ∧
    ∀ more, bpsWhole ≤ more * (bpsWhole - feeBps) → ∀ paid,
      swapOutput (cost + more) reserveIn reserveOut feeBps = .ok paid → amountOut ≤ paid := by
  have share := fee_lt_whole priced swapped
  refine ⟨?_, ?_, fun more whole paid swapped => le_paid_of_more priced swapped share whole⟩
  · obtain ⟨_, _, _, net, kept, _⟩ := swapOutput_eq swapped
    rw [le_swapOutput_iff swapped kept, (of_quotient_ok (haircut_eq kept).2.2).2,
      Int.fdiv_eq_ediv_of_nonneg _ (by decide)]
  · rintro (rfl | exact)
    · exact le_paid_of_no_fee priced swapped
    · exact le_paid_of_dvd priced swapped share exact

/-- For one unit of a pool of a million units on either side, at a fee of 30 basis points, two units
    are quoted and pay nothing; two units more suffice. -/
theorem swapInput_suffices_at_pair :
    ¬ (1 * 1000000 : Int) ≤ 2 * (bpsWhole - 30) / bpsWhole * (1000000 - 1) ∧
      ∀ paid : Int, swapOutput 4 1000000 1000000 30 = .ok paid → 1 ≤ paid := by
  have priced : swapInput (1 : Int) 1000000 1000000 30 = .ok 2 := rfl
  have swapped : swapOutput (2 : Int) 1000000 1000000 30 = .ok 0 := rfl
  obtain ⟨short, _, more⟩ := swapInput_suffices_iff priced swapped
  exact ⟨fun reached => absurd (short.mpr reached) (by decide), more 2 (by decide)⟩

/-- The quoted input does not always suffice: the unit that it is rounded up by is lost again to the
    rounding of the fee. -/
theorem swapInput_falls_short :
    swapInput (1 : Int) 1000000 1000000 30 = .ok 2 ∧
      swapOutput (2 : Int) 1000000 1000000 30 = .ok 0 ∧
      ¬ ∀ amountOut reserveIn reserveOut feeBps cost paid : Int, 0 ≤ feeBps → feeBps ≤ 9999 →
        swapInput amountOut reserveIn reserveOut feeBps = .ok cost →
        swapOutput cost reserveIn reserveOut feeBps = .ok paid → amountOut ≤ paid :=
  ⟨rfl, rfl, fun always =>
    absurd (always 1 1000000 1000000 30 2 0 (by decide) (by decide) rfl rfl) (by decide)⟩

/-! ### No more than one unit too much -/

/-- What the fee leaves of an input that is below the quoted one by more than the unit added to it
    does not cover the output. -/
theorem short_of_lt_cost (priced : swapInput amountOut reserveIn reserveOut feeBps = .ok cost)
    (share : feeBps < bpsWhole) (kept : haircut amountIn feeBps = .ok net)
    (less : amountIn < cost - 1) : net * (reserveOut - amountOut) < amountOut * reserveIn := by
  obtain ⟨⟨_, within⟩, _, _, _, divided⟩ := swapInput_eq priced
  have positive : 0 < (reserveOut - amountOut) * (bpsWhole - feeBps) :=
    Int.mul_pos (by omega) (by omega)
  have next : (amountIn + 1) * ((reserveOut - amountOut) * (bpsWhole - feeBps)) ≤
      reserveIn * amountOut * bpsWhole :=
    (le_quotient_iff divided positive).mp (by omega)
  have fee : net * bpsWhole ≤ amountIn * (bpsWhole - feeBps) :=
    quotient_mul_le (haircut_eq kept).2.2 (by decide)
  refine Int.lt_of_mul_lt_mul_right (a := bpsWhole) ?_ (by decide)
  calc net * (reserveOut - amountOut) * bpsWhole
      = net * bpsWhole * (reserveOut - amountOut) := by grind
    _ ≤ amountIn * (bpsWhole - feeBps) * (reserveOut - amountOut) :=
        Int.mul_le_mul_of_nonneg_right fee (by omega)
    _ < (amountIn + 1) * ((reserveOut - amountOut) * (bpsWhole - feeBps)) := by grind
    _ ≤ reserveIn * amountOut * bpsWhole := next
    _ = amountOut * reserveIn * bpsWhole := by grind

/-- Every input below the quoted one, by more than the unit that was added to it, is quoted for less
    than the requested output. So the quoted input is at most one unit above any input that
    suffices. -/
theorem swapInput_within_one (share : 0 ≤ feeBps ∧ feeBps ≤ 9999)
    (priced : swapInput amountOut reserveIn reserveOut feeBps = .ok cost) :
    (∀ amountIn, 0 ≤ amountIn → amountIn < cost - 1 →
      ∃ paid, swapOutput amountIn reserveIn reserveOut feeBps = .ok paid ∧ paid < amountOut) ∧
    ∀ amountIn paid, swapOutput amountIn reserveIn reserveOut feeBps = .ok paid →
      amountOut ≤ paid → cost ≤ amountIn + 1 := by
  have part : feeBps < bpsWhole := by
    simp only [bpsWhole]
    omega
  obtain ⟨⟨nonneg, within⟩, incoming, small, fits, _⟩ := swapInput_eq priced
  constructor
  · intro amountIn low less
    have amount : 0 ≤ amountIn ∧ amountIn ≤ u64Max := ⟨low, by omega⟩
    have kept := haircut_of_range amount ⟨share.1, Int.le_of_lt part⟩
    obtain ⟨_, left, _⟩ := of_haircut_ok kept
    have short := short_of_lt_cost priced part kept less
    -- Of an empty reserve nothing can be asked for, so that there is something to divide by.
    have funded : 0 < reserveIn := by
      refine Int.not_le.mp fun empty => ?_
      have nothing := Int.mul_nonpos_of_nonneg_of_nonpos nonneg empty
      have covered := Int.mul_nonneg left (by omega : 0 ≤ reserveOut - amountOut)
      omega
    have quoted := swapOutput_of_range amount incoming ⟨by omega, small⟩ kept (by omega)
    refine ⟨_, quoted, Int.not_le.mp ?_⟩
    rw [le_swapOutput_iff quoted kept]
    exact Int.not_le.mpr short
  · intro amountIn paid swapped enough
    obtain ⟨_, _, _, net, kept, _⟩ := swapOutput_eq swapped
    refine Int.not_lt.mp fun less => ?_
    have short := short_of_lt_cost priced part kept (by omega)
    exact absurd ((le_swapOutput_iff swapped kept).mp enough) (Int.not_le.mpr short)

/-- At a fee of half the input, 500 units of a pool of 1000 on either side are quoted at 2001: then
    1999 units are not enough, and as 2000 units are, the quote is no less than one unit above
    the least input. -/
theorem swapInput_within_one_at_pool :
    (∃ paid : Int, swapOutput 1999 1000 1000 5000 = .ok paid ∧ paid < 500) ∧
      swapOutput (2000 : Int) 1000 1000 5000 = .ok 500 ∧ (2001 : Int) ≤ 2000 + 1 := by
  have priced : swapInput (500 : Int) 1000 1000 5000 = .ok 2001 := rfl
  have swapped : swapOutput (2000 : Int) 1000 1000 5000 = .ok 500 := rfl
  obtain ⟨less, least⟩ := swapInput_within_one ⟨by decide, by decide⟩ priced
  exact ⟨less 1999 (by decide) (by decide), swapped, least 2000 500 swapped (by decide)⟩

end TradingEngine.ConstantProduct
