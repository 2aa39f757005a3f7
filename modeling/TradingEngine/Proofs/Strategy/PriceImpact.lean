import TradingEngine.Proofs.NoOverflow
import TradingEngine.Proofs.Operation
import TradingEngine.Proofs.Wording

/-! # How far a swap is from the spot price

A swap never pays more than the spot price, however its fee and its divisions are rounded. So the
shortfall that a price impact is worked out from is a difference that is there, and the impact is a
share of what was expected. It can only fail where nothing was expected, or more than an amount of
64 bits.
-/

namespace TradingEngine

open Quantity

namespace ConstantProduct

open Checked

variable {amountIn amountOut reserveIn reserveOut feeBps out : Int}

/-- A swap pays no more than the spot price, rounded down. -/
theorem swapOutput_le_spot (positive : 0 < reserveIn)
    (h : swapOutput amountIn reserveIn reserveOut feeBps = .ok out) :
    out ≤ amountIn * reserveOut / reserveIn := by
  obtain ⟨nonnegOut, paid, net, kept, _, covered⟩ := swapOutput_covered h
  obtain ⟨_, nonneg, below⟩ := of_haircut_ok kept
  refine (Int.le_ediv_iff_mul_le positive).mpr ?_
  calc out * reserveIn ≤ net * (reserveOut - out) := covered
    _ ≤ net * reserveOut := Int.mul_le_mul_of_nonneg_left (by omega) nonneg
    _ ≤ amountIn * reserveOut := Int.mul_le_mul_of_nonneg_right below (by omega)

/-- How a price impact comes out if no more was paid than expected. -/
theorem priceImpactBps_eq (amount : 0 ≤ amountIn ∧ amountIn ≤ u64Max)
    (paid : 0 ≤ amountOut ∧ amountOut ≤ u64Max) (positive : 0 < reserveIn)
    (outgoing : 0 ≤ reserveOut ∧ reserveOut ≤ u64Max)
    (below : amountOut ≤ amountIn * reserveOut / reserveIn) :
    priceImpactBps amountIn amountOut reserveIn reserveOut =
      if u64Max < amountIn * reserveOut / reserveIn then
        refuse (.resultTooLarge (.int (amountIn * reserveOut / reserveIn)))
      else if amountIn * reserveOut / reserveIn = 0 then refuse (.divisorZero (.int 0))
      else .ok ((amountIn * reserveOut / reserveIn - amountOut) * bpsWhole /
        (amountIn * reserveOut / reserveIn)) := by
  simp only [priceImpactBps, amount_of_range _ amount, amount_of_range _ paid, Except.ok_bind,
    product_of_range amount outgoing, quotient_of_pos positive]
  generalize amountIn * reserveOut / reserveIn = expected at below
  split
  · rename_i large
    rw [toU64_of_lt large]
    rfl
  · rename_i fits
    have small : (expected - amountOut) * bpsWhole ≤ u128Max := by
      simp only [u64Max, u128Max, bpsWhole] at *
      omega
    rw [toU64_of_le (Int.not_lt.mp fits), Except.ok_bind, difference_of_le below, Except.ok_bind,
      ofInt_int, product_of_le small, Except.ok_bind]
    split
    · rename_i nothing
      obtain rfl : amountOut = 0 := by omega
      rw [nothing]
      rfl
    · exact quotient_of_pos (by omega)

/-- A share of what was expected. -/
theorem shortfall_share {expected : Int} (positive : 0 < expected) (nonneg : 0 ≤ amountOut)
    (below : amountOut ≤ expected) :
    0 ≤ (expected - amountOut) * bpsWhole / expected ∧
      (expected - amountOut) * bpsWhole / expected ≤ bpsWhole := by
  have whole : (0 : Int) ≤ bpsWhole := by decide
  exact ⟨Int.ediv_nonneg (Int.mul_nonneg (by omega) whole) (Int.le_of_lt positive),
    part_le whole (by omega) positive⟩

end ConstantProduct

/-- Whether a run stopped over a difference that would have been negative. -/
def Stop.Underflows (stop : Stop) : Prop :=
  ∃ a b fill, stop = .fault (.failure ⟨.differenceNegative a b, fill⟩)

theorem Cause.not_underflows {cause : Cause} (other : ∀ a b, cause ≠ .differenceNegative a b) :
    ¬ (Stop.fault cause.fault).Underflows := by
  rintro ⟨a, b, fill, same⟩
  unfold fault at same
  split at same
  · cases same
    exact other a b rfl
  · cases same

namespace Run

variable {ctx : Context Int} {pool token : Text} {amountIn reserveIn reserveOut out : Int}

/-- A pool that a condition of the context reads from this machine, in the direction of `token`. -/
structure Reads (ctx : Context Int) (pool token : Text) (m : Machine Int) (p : Pool Int)
    (reserveIn reserveOut : Int) : Prop where
  found : ∃ source world, Table.get? pool ctx.pools = some source ∧
    (source.reserves (.text token)).result m.world = (.ok p, world)
  sides : p.sides (.text token) = .ok (reserveIn, reserveOut)

/-- The impact that a condition reads is that of the swap which the pool quotes. -/
theorem readImpact_of_reads {m : Machine Int} {p : Pool Int}
    (reads : Reads ctx pool token m p reserveIn reserveOut)
    (quoted : ConstantProduct.swapOutput amountIn reserveIn reserveOut p.feeBps = .ok out) :
    ((readImpact ctx pool token amountIn).result m).1 =
      (ConstantProduct.priceImpactBps amountIn out reserveIn reserveOut).mapError Stop.fault := by
  obtain ⟨⟨source, world, found, read⟩, sides⟩ := reads
  simp only [readImpact, found, result_bind, result_ofEngine, read, Except.mapError_ok,
    result_ofExcept, sides, ofInt_int, quoted]

theorem condition_not_underflows {block : Text} {type : ConditionType} {satisfied : Bool}
    {reading : Reading} {m after : Machine Int} {stop : Stop}
    (h : (condition block type satisfied reading).result m = (.error stop, after)) :
    ¬ stop.Underflows := by
  unfold condition at h
  cases satisfied with
  | false =>
      cases h
      exact Cause.not_underflows nofun
  | true =>
      simp only [Bool.not_true, Bool.false_eq_true, if_false, log, result_ofEngine,
        Engine.result_log] at h
      split at h
      · cases h
      · cases h
        rintro ⟨_, _, _, same⟩
        cases same

/-- A condition on the price impact stops at the impact that it reads, or behind it. -/
theorem perform_impact_not_underflows {options : RunOptions Int} {block : Text} {maximumBps : Int}
    {m after : Machine Int} {stop : Stop}
    (read : ∀ stop, ((readImpact ctx pool token amountIn).result m).1 = .error stop →
      ¬ stop.Underflows)
    (h : (perform options ctx block (.priceImpact pool token amountIn maximumBps)).result m =
      (.error stop, after)) : ¬ stop.Underflows := by
  rw [perform, result_bind] at h
  split at h
  · rw [result_bind, le_int, result_ofExcept] at h
    exact condition_not_underflows h
  · rename_i ended
    cases h
    exact read _ (congrArg Prod.fst ended)

end Run

/-- For all amounts and reserves of 64 bits, the incoming one not empty, and every fee, a swap is
    quoted, and its price impact fails exactly if nothing was expected at the spot price or more
    than an amount of 64 bits. Otherwise it is a share, from nothing to the whole. So no condition
    on such a pool stops over a difference. -/
theorem ConstantProduct.priceImpactBps_bounded {amountIn reserveIn reserveOut feeBps : Int}
    (amount : 0 ≤ amountIn ∧ amountIn ≤ u64Max) (incoming : 0 < reserveIn ∧ reserveIn ≤ u64Max)
    (outgoing : 0 ≤ reserveOut ∧ reserveOut ≤ u64Max) (share : 0 ≤ feeBps ∧ feeBps ≤ bpsWhole) :
    ∃ out, swapOutput amountIn reserveIn reserveOut feeBps = .ok out ∧
      let expected := amountIn * reserveOut / reserveIn
      let ended := priceImpactBps amountIn out reserveIn reserveOut
      ((∃ e, e.kind = .overflow ∧ ended = .error (.failure e)) ↔
        expected = 0 ∨ u64Max < expected) ∧
      (¬ (expected = 0 ∨ u64Max < expected) →
        ∃ impact, ended = .ok impact ∧ 0 ≤ impact ∧ impact ≤ bpsWhole) ∧
      ∀ (options : RunOptions Int) (ctx : Context Int) (block pool token : Text) (maximumBps : Int)
        (p : Pool Int) (m after : Machine Int) (stop : Stop),
        Run.Reads ctx pool token m p reserveIn reserveOut → p.feeBps = feeBps →
        (Run.perform options ctx block (.priceImpact pool token amountIn maximumBps)).result m =
          (.error stop, after) → ¬ stop.Underflows := by
  have kept := haircut_of_range amount share
  obtain ⟨_, nonneg, _⟩ := of_haircut_ok kept
  have quoted := swapOutput_of_range amount ⟨Int.le_of_lt incoming.1, incoming.2⟩ outgoing kept
    (by omega)
  generalize amountIn * (bpsWhole - feeBps) / bpsWhole = net at *
  refine ⟨_, quoted, ?_⟩
  generalize net * reserveOut / (reserveIn + net) = out at *
  intro expected ended
  have below : out ≤ expected := swapOutput_le_spot incoming.1 quoted
  have paid := (swapOutput_bounds quoted).2
  have impact : ended =
      if u64Max < expected then refuse (.resultTooLarge (.int expected))
      else if expected = 0 then refuse (.divisorZero (.int 0))
      else .ok ((expected - out) * bpsWhole / expected) :=
    priceImpactBps_eq amount paid incoming.1 outgoing below
  refine ⟨?_, ?_, ?_⟩
  · rw [impact]
    split
    · exact iff_of_true ⟨⟨_, none⟩, rfl, rfl⟩ (.inr ‹_›)
    · split
      · exact iff_of_true ⟨⟨_, none⟩, rfl, rfl⟩ (.inl ‹_›)
      · exact iff_of_false nofun (not_or.mpr ⟨‹_›, ‹_›⟩)
  · intro fits
    rw [not_or] at fits
    rw [impact, if_neg fits.2, if_neg fits.1]
    exact ⟨_, rfl, shortfall_share (by omega) paid.1 below⟩
  · rintro options ctx block pool token maximumBps p m after stop reads rfl performed
    refine Run.perform_impact_not_underflows (fun stop read => ?_) performed
    rw [Run.readImpact_of_reads reads quoted] at read
    change ended.mapError _ = _ at read
    rw [impact] at read
    split at read
    · cases read
      exact Cause.not_underflows nofun
    · split at read
      · cases read
        exact Cause.not_underflows nofun
      · cases read

/-- A pool of which a trade takes a hundredth. -/
def hundredfoldPool : Pool Int :=
  { tokenA := .text "A", tokenB := .text "B", reserveA := 1000000, reserveB := 1000000
    feeBps := 30, lpSupply := 1000000 }

/-- A caller with a copy of that pool. -/
def hundredfoldContext : Context Int :=
  { oracle := { now := 0 }, risk := { maxTradeSize := 0, dailyLossLimit := 0 }, metrics := .none
    now := 0, pools := [("A/B", .snapshot hundredfoldPool)] }

/-- A condition of that caller, which allows an impact of 100 basis points. -/
def weighed : Except Stop Unit × Machine Int :=
  (Run.perform ⟨⟨100, 100⟩, 1⟩ hundredfoldContext "weigh"
    (.priceImpact "A/B" "A" 10000 100)).result ⟨{ settings := .standard }, {}⟩

/-- The fee and the trade itself take 129 basis points. -/
theorem ConstantProduct.hundredfoldPool_impact :
    swapOutput 10000 1000000 1000000 30 = .ok (9871 : Int) ∧
      (∃ impact : Int, priceImpactBps 10000 9871 1000000 1000000 = .ok impact ∧
        0 ≤ impact ∧ impact ≤ bpsWhole) ∧
      ∃ stop, weighed.1 = .error stop ∧ ¬ stop.Underflows := by
  obtain ⟨out, quoted, -, impact, conditions⟩ := priceImpactBps_bounded
    (by decide : (0 : Int) ≤ 10000 ∧ 10000 ≤ u64Max)
    (by decide : (0 : Int) < 1000000 ∧ 1000000 ≤ u64Max)
    (by decide : (0 : Int) ≤ 1000000 ∧ 1000000 ≤ u64Max)
    (by decide : (0 : Int) ≤ 30 ∧ 30 ≤ bpsWhole)
  have paid : swapOutput 10000 1000000 1000000 30 = .ok (9871 : Int) := rfl
  cases quoted.symm.trans paid
  have stopped : weighed.1 = .error (.fault (.failure
      ⟨.conditionUnmet "weigh" (.impact (.int 129) 100), none⟩)) := rfl
  exact ⟨paid, impact (by decide), _, stopped, conditions _ _ _ _ _ _ hundredfoldPool _ _ _
    ⟨⟨_, _, rfl, rfl⟩, rfl⟩ rfl (Prod.ext stopped rfl)⟩

end TradingEngine
