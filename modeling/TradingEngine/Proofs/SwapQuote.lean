import TradingEngine.Proofs.SwapCost
import TradingEngine.Proofs.Wording

/-! # When a swap is quoted, and how its quote moves

A swap of whole numbers ends in one of four ways: it is refused for an operand that is no amount of
64 bits, for a fee that is no share, or because there is nothing to divide by, and otherwise it is
quoted. The range checks behind those of the operands never refuse. A quote is no more than the
outgoing reserve, and less where neither reserve is empty. It rises with the amount and with the
outgoing reserve, and falls with the incoming one and with the fee.
-/

namespace TradingEngine

namespace Checked

theorem amount_of_outside {n : Int} (operand : String) (outside : ¬(0 ≤ n ∧ n ≤ u64Max)) :
    amount operand n = refuse (.notU64 operand (.int n)) := by
  simp only [amount, Quantity.whole?_int, Bool.or_eq_true, decide_eq_true_eq]
  exact if_pos (by omega)

end Checked

namespace ConstantProduct

open Checked

variable {amountIn reserveIn reserveOut feeBps out : Int}

/-! ### How a swap ends -/

theorem haircut_of_no_share {value bps : Int} (range : 0 ≤ value ∧ value ≤ u64Max)
    (outside : ¬(0 ≤ bps ∧ bps ≤ bpsWhole)) :
    haircut value bps = refuse (.bpsOutOfRange (.int bps)) := by
  simp only [haircut, amount_of_range _ range, Except.ok_bind, Quantity.lt_int, Quantity.ofInt_int,
    decide_eq_true_eq]
  by_cases negative : bps < 0
  · rw [if_pos negative]
    rfl
  · rw [if_neg negative, if_pos (by omega)]
    rfl

/-- What a swap can be refused for; it is refused for the first of these that it comes to. -/
inductive SwapRefused (amountIn reserveIn reserveOut feeBps : Int) : Cause → Prop where
  | amountIn (outside : ¬(0 ≤ amountIn ∧ amountIn ≤ u64Max)) :
    SwapRefused amountIn reserveIn reserveOut feeBps (.notU64 "amount_in" (.int amountIn))
  | reserveIn (outside : ¬(0 ≤ reserveIn ∧ reserveIn ≤ u64Max)) :
    SwapRefused amountIn reserveIn reserveOut feeBps (.notU64 "reserve_in" (.int reserveIn))
  | reserveOut (outside : ¬(0 ≤ reserveOut ∧ reserveOut ≤ u64Max)) :
    SwapRefused amountIn reserveIn reserveOut feeBps (.notU64 "reserve_out" (.int reserveOut))
  | fee (outside : ¬(0 ≤ feeBps ∧ feeBps ≤ bpsWhole)) :
    SwapRefused amountIn reserveIn reserveOut feeBps (.bpsOutOfRange (.int feeBps))
  /-- The incoming reserve is empty, and the fee leaves nothing to put there. -/
  | nothing (empty : reserveIn = 0) (kept : amountIn * (bpsWhole - feeBps) / bpsWhole = 0) :
    SwapRefused amountIn reserveIn reserveOut feeBps (.divisorZero (.int 0))

/-- Whatever a swap is refused for, it overflows, and not at the range check of a product, a sum or
    a result. -/
theorem SwapRefused.overflows {cause : Cause} {ended : Except Fault Int}
    (refused : SwapRefused amountIn reserveIn reserveOut feeBps cause)
    (stopped : ended = refuse cause) :
    Overflows ended ∧ ∀ a b, ended ≠ refuse (.productTooLarge a b) ∧
      ended ≠ refuse (.sumTooLarge a b) ∧ ended ≠ refuse (.resultTooLarge a) := by
  subst stopped
  cases refused <;> exact ⟨⟨⟨_, none⟩, rfl, rfl⟩, fun _ _ => ⟨nofun, nofun, nofun⟩⟩

theorem swapOutput_of_empty (amount : 0 ≤ amountIn ∧ amountIn ≤ u64Max)
    (outgoing : 0 ≤ reserveOut ∧ reserveOut ≤ u64Max) (kept : haircut amountIn feeBps = .ok 0) :
    swapOutput amountIn 0 reserveOut feeBps = refuse (.divisorZero (.int 0)) := by
  have zero : (0 : Int) ≤ 0 ∧ 0 ≤ u64Max := by decide
  simp only [swapOutput, amount_of_range _ amount, amount_of_range _ zero,
    amount_of_range _ outgoing, kept, Except.ok_bind, product_of_range zero outgoing,
    sum_of_le (by decide : (0 : Int) + 0 ≤ u128Max), Int.zero_mul]
  rfl

/-- Behind the checks of its operands and of its fee, a swap is refused only where there is nothing
    to divide by. -/
theorem swapOutput_ends (amountIn reserveIn reserveOut feeBps : Int) :
    (∃ cause, SwapRefused amountIn reserveIn reserveOut feeBps cause ∧
      swapOutput amountIn reserveIn reserveOut feeBps = refuse cause) ∨
    ∃ out, swapOutput amountIn reserveIn reserveOut feeBps = .ok out := by
  -- One case for each check, in their order: the later ones rely on those before.
  by_cases amount : 0 ≤ amountIn ∧ amountIn ≤ u64Max
  case neg =>
    refine .inl ⟨_, .amountIn amount, ?_⟩
    rw [swapOutput, amount_of_outside _ amount]
    rfl
  by_cases incoming : 0 ≤ reserveIn ∧ reserveIn ≤ u64Max
  case neg =>
    refine .inl ⟨_, .reserveIn incoming, ?_⟩
    rw [swapOutput, amount_of_range _ amount, amount_of_outside _ incoming]
    rfl
  by_cases outgoing : 0 ≤ reserveOut ∧ reserveOut ≤ u64Max
  case neg =>
    refine .inl ⟨_, .reserveOut outgoing, ?_⟩
    rw [swapOutput, amount_of_range _ amount, amount_of_range _ incoming,
      amount_of_outside _ outgoing]
    rfl
  by_cases share : 0 ≤ feeBps ∧ feeBps ≤ bpsWhole
  case neg =>
    refine .inl ⟨_, .fee share, ?_⟩
    rw [swapOutput, amount_of_range _ amount, amount_of_range _ incoming,
      amount_of_range _ outgoing, haircut_of_no_share amount share]
    rfl
  have kept := haircut_of_range amount share
  obtain ⟨_, nonneg, _⟩ := of_haircut_ok kept
  by_cases positive : 0 < reserveIn + amountIn * (bpsWhole - feeBps) / bpsWhole
  case pos => exact .inr ⟨_, swapOutput_of_range amount incoming outgoing kept positive⟩
  obtain rfl : reserveIn = 0 := by omega
  have nothing : amountIn * (bpsWhole - feeBps) / bpsWhole = 0 := by omega
  rw [nothing] at kept
  exact .inl ⟨_, .nothing rfl nothing, swapOutput_of_empty amount outgoing kept⟩

/-- A pool with two reserves is never drained by a swap. -/
theorem swapOutput_lt_reserve (h : swapOutput amountIn reserveIn reserveOut feeBps = .ok out)
    (funded : 0 < reserveIn) (stocked : 0 < reserveOut) : out < reserveOut := by
  obtain ⟨_, paid, net, _, _, covered⟩ := swapOutput_covered h
  refine Int.lt_iff_le_and_ne.mpr ⟨paid, ?_⟩
  rintro rfl
  have worth : 0 < out * reserveIn := Int.mul_pos stocked funded
  rw [Int.sub_self, Int.mul_zero] at covered
  exact absurd worth (Int.not_lt.mpr covered)

/-- A swap of any whole numbers overflows exactly if an operand is no amount of 64 bits, the fee is
    no share, or there is nothing to divide by; then it is for one of these that it is refused, and
    never for a product, a sum or a result that is too large. Otherwise it pays no more than the
    outgoing reserve, and less than all of it if the pool has two reserves. -/
theorem swapOutput_overflow_iff (amountIn reserveIn reserveOut feeBps : Int) :
    (Overflows (swapOutput amountIn reserveIn reserveOut feeBps) ↔
      ¬(0 ≤ amountIn ∧ amountIn ≤ u64Max) ∨ ¬(0 ≤ reserveIn ∧ reserveIn ≤ u64Max) ∨
        ¬(0 ≤ reserveOut ∧ reserveOut ≤ u64Max) ∨ ¬(0 ≤ feeBps ∧ feeBps ≤ bpsWhole) ∨
        (reserveIn = 0 ∧ amountIn * (bpsWhole - feeBps) / bpsWhole = 0)) ∧
    (∀ a b,
      swapOutput amountIn reserveIn reserveOut feeBps ≠ refuse (.productTooLarge a b) ∧
      swapOutput amountIn reserveIn reserveOut feeBps ≠ refuse (.sumTooLarge a b) ∧
      swapOutput amountIn reserveIn reserveOut feeBps ≠ refuse (.resultTooLarge a)) ∧
    (¬Overflows (swapOutput amountIn reserveIn reserveOut feeBps) →
      ∃ out, swapOutput amountIn reserveIn reserveOut feeBps = .ok out ∧ out ≤ reserveOut ∧
        (0 < reserveIn → 0 < reserveOut → out < reserveOut)) := by
  rcases swapOutput_ends amountIn reserveIn reserveOut feeBps with
    ⟨cause, refused, stopped⟩ | ⟨out, quoted⟩
  · obtain ⟨overflow, elsewhere⟩ := refused.overflows stopped
    refine ⟨iff_of_true overflow ?_, elsewhere, fun not => absurd overflow not⟩
    cases refused with
    | amountIn outside => exact .inl outside
    | reserveIn outside => exact .inr (.inl outside)
    | reserveOut outside => exact .inr (.inr (.inl outside))
    | fee outside => exact .inr (.inr (.inr (.inl outside)))
    | nothing empty kept => exact .inr (.inr (.inr (.inr ⟨empty, kept⟩)))
  · obtain ⟨amount, incoming, outgoing, net, kept, positive, _⟩ := swapOutput_eq quoted
    have share := (haircut_eq kept).2.1
    rw [haircut_floor kept] at positive
    have paid := (of_swapOutput_ok quoted).2.2.1
    have below := swapOutput_lt_reserve quoted
    rw [quoted]
    refine ⟨iff_of_false ?_ (by omega), fun _ _ => ⟨nofun, nofun, nofun⟩,
      fun _ => ⟨out, rfl, paid, below⟩⟩
    rintro ⟨e, _, failed⟩
    cases failed

/-- The largest amounts of all are quoted: half of the reserve is paid. -/
theorem largestPool_quoted :
    swapOutput u64Max u64Max u64Max 0 = .ok (9223372036854775807 : Int) ∧
      (9223372036854775807 : Int) < u64Max := by
  have quoted : swapOutput u64Max u64Max u64Max 0 = .ok (9223372036854775807 : Int) := rfl
  obtain ⟨_, _, returns⟩ := swapOutput_overflow_iff u64Max u64Max u64Max 0
  obtain ⟨out, alsoQuoted, _, below⟩ := returns fun ⟨e, _, failed⟩ => nomatch failed
  cases quoted.symm.trans alsoQuoted
  exact ⟨quoted, below (by decide) (by decide)⟩

/-! ### How a quote moves -/

/-- The less of a greater amount is taken, the more is left of it. -/
theorem haircut_le {value bps more less kept left : Int} (before : haircut value bps = .ok kept)
    (after : haircut more less = .ok left) (grows : value ≤ more) (falls : less ≤ bps) :
    kept ≤ left := by
  obtain ⟨_, ⟨_, share⟩, divided⟩ := haircut_eq before
  obtain ⟨⟨nonneg, _⟩, _, alsoDivided⟩ := haircut_eq after
  rw [le_quotient_iff alsoDivided (by decide)]
  calc kept * bpsWhole ≤ value * (bpsWhole - bps) := quotient_mul_le divided (by decide)
    _ ≤ more * (bpsWhole - less) := Int.mul_le_mul grows (by omega) (by omega) nonneg

/-- A swap of more, at a lower fee, into a smaller reserve and out of a larger one, pays no less:
    what the fee leaves of it covers, at its own reserves, what was paid before. -/
theorem swapOutput_le {more smaller larger lower paid : Int}
    (before : swapOutput amountIn reserveIn reserveOut feeBps = .ok out)
    (after : swapOutput more smaller larger lower = .ok paid) (amount : amountIn ≤ more)
    (incoming : smaller ≤ reserveIn) (outgoing : reserveOut ≤ larger) (fee : lower ≤ feeBps) :
    out ≤ paid := by
  obtain ⟨nonneg, within, net, kept, _, covered⟩ := swapOutput_covered before
  obtain ⟨_, _, _, left, keptMore, _⟩ := swapOutput_eq after
  obtain ⟨_, nonnegLeft, _⟩ := of_haircut_ok keptMore
  have grows : net ≤ left := haircut_le kept keptMore amount fee
  rw [le_swapOutput_iff after keptMore]
  calc out * smaller ≤ out * reserveIn := Int.mul_le_mul_of_nonneg_left incoming nonneg
    _ ≤ net * (reserveOut - out) := covered
    _ ≤ left * (larger - out) := Int.mul_le_mul grows (by omega) (by omega) nonnegLeft

/-- A swap that is quoted is quoted at any larger amount or reserve of 64 bits too. It never pays
    less for more, or out of a larger reserve, and never more into a larger reserve, or at a higher
    fee; a higher fee may leave nothing to divide by. -/
theorem swapOutput_monotone (quoted : swapOutput amountIn reserveIn reserveOut feeBps = .ok out) :
    (∀ more, amountIn ≤ more → more ≤ u64Max →
      ∃ paid, swapOutput more reserveIn reserveOut feeBps = .ok paid ∧ out ≤ paid) ∧
    (∀ more, reserveOut ≤ more → more ≤ u64Max →
      ∃ paid, swapOutput amountIn reserveIn more feeBps = .ok paid ∧ out ≤ paid) ∧
    (∀ more, reserveIn ≤ more → more ≤ u64Max →
      ∃ paid, swapOutput amountIn more reserveOut feeBps = .ok paid ∧ paid ≤ out) ∧
    ∀ more, feeBps ≤ more → ∀ paid,
      swapOutput amountIn reserveIn reserveOut more = .ok paid → paid ≤ out := by
  obtain ⟨amount, incoming, outgoing, net, kept, positive, _⟩ := swapOutput_eq quoted
  obtain ⟨_, share, _⟩ := haircut_eq kept
  refine ⟨fun more grows fits => ?_, fun more grows fits => ?_, fun more grows fits => ?_,
    fun more grows paid alsoQuoted =>
      swapOutput_le alsoQuoted quoted (Int.le_refl _) (Int.le_refl _) (Int.le_refl _) grows⟩
  · have larger : 0 ≤ more ∧ more ≤ u64Max := ⟨Int.le_trans amount.1 grows, fits⟩
    have keptMore := haircut_of_range larger share
    have left := haircut_le kept keptMore grows (Int.le_refl _)
    have alsoQuoted := swapOutput_of_range larger incoming outgoing keptMore (by omega)
    exact ⟨_, alsoQuoted,
      swapOutput_le quoted alsoQuoted grows (Int.le_refl _) (Int.le_refl _) (Int.le_refl _)⟩
  · have larger : 0 ≤ more ∧ more ≤ u64Max := ⟨Int.le_trans outgoing.1 grows, fits⟩
    have alsoQuoted := swapOutput_of_range amount incoming larger kept positive
    exact ⟨_, alsoQuoted,
      swapOutput_le quoted alsoQuoted (Int.le_refl _) (Int.le_refl _) grows (Int.le_refl _)⟩
  · have larger : 0 ≤ more ∧ more ≤ u64Max := ⟨Int.le_trans incoming.1 grows, fits⟩
    have alsoQuoted := swapOutput_of_range amount larger outgoing kept (by omega)
    exact ⟨_, alsoQuoted,
      swapOutput_le alsoQuoted quoted (Int.le_refl _) grows (Int.le_refl _) (Int.le_refl _)⟩

/-- A hundred units into an even pool of a thousand, at a fee of 30 basis points: more of them pay
    more, and half of them as a fee pay less. -/
theorem evenPool_moves :
    (∃ paid : Int, swapOutput 200 1000 1000 30 = .ok paid ∧ 90 ≤ paid) ∧
      (∃ paid : Int, swapOutput 100 1000 2000 30 = .ok paid ∧ 90 ≤ paid) ∧
      (∃ paid : Int, swapOutput 100 2000 1000 30 = .ok paid ∧ paid ≤ 90) ∧
      swapOutput 100 1000 1000 5000 = .ok (47 : Int) ∧ (47 : Int) ≤ 90 := by
  have quoted : swapOutput 100 1000 1000 30 = .ok (90 : Int) := rfl
  have halved : swapOutput 100 1000 1000 5000 = .ok (47 : Int) := rfl
  obtain ⟨amount, outgoing, incoming, fee⟩ := swapOutput_monotone quoted
  exact ⟨amount 200 (by decide) (by decide), outgoing 2000 (by decide) (by decide),
    incoming 2000 (by decide) (by decide), halved, fee 5000 (by decide) 47 halved⟩

end ConstantProduct

end TradingEngine
