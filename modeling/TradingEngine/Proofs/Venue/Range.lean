import TradingEngine.Proofs.Venue.ShareValue

/-! # The range of a pool

Both reserves and the supply of a pool stay amounts of 64 bits, whatever amounts its calls ask for,
except that the first deposit into a pool is not held to be one of positive amounts: where a
negative one goes through, the pool is left below zero.
-/

namespace TradingEngine

open Engine Quantity

namespace Pool

/-- What calls can change of a pool are amounts of 64 bits. -/
structure InRange (p : Pool Int) : Prop where
  reserveA : 0 ≤ p.reserveA ∧ p.reserveA ≤ u64Max
  reserveB : 0 ≤ p.reserveB ∧ p.reserveB ≤ u64Max
  lpSupply : 0 ≤ p.lpSupply ∧ p.lpSupply ≤ u64Max

variable {p : Pool Int}

theorem InRange.solvent (range : p.InRange) : p.Solvent := ⟨range.reserveA.1, range.reserveB.1⟩

theorem exchanged_inRange {token : Name} {amountIn slippageBps out : Int}
    {minimumOut : Option Int} (range : p.InRange)
    (sold : p.sale token amountIn minimumOut slippageBps = .ok out) :
    (p.exchanged token amountIn out).InRange := by
  obtain ⟨quoted, fits, _⟩ := sale_eq sold
  obtain ⟨nonneg, earned, covered⟩ := quote_covered quoted
  have ⟨⟨lowA, highA⟩, ⟨lowB, highB⟩, supply⟩ := range
  unfold exchanged
  split at fits <;> rename_i side
  · rw [if_pos side] at covered ⊢
    refine ⟨?_, ?_, supply⟩ <;> dsimp only <;> omega
  · rw [if_neg side] at covered ⊢
    refine ⟨?_, ?_, supply⟩ <;> dsimp only <;> omega

theorem credited_inRange {amountA : Int} {d : PoolStep.Deposit Int} (range : p.InRange)
    (addedA : 0 ≤ amountA) (addedB : 0 ≤ d.amountB) (minted : 0 ≤ d.minted) :
    (p.credited amountA d).InRange := by
  have ⟨⟨lowA, highA⟩, ⟨lowB, highB⟩, lowSupply, highSupply⟩ := range
  unfold credited
  split
  · exact range
  split
  · refine ⟨?_, range.reserveB, range.lpSupply⟩
    dsimp only
    omega
  split <;> refine ⟨?_, ?_, ?_⟩ <;> dsimp only <;> omega

theorem withdrawn_inRange {burned outA outB : Int} (range : p.InRange)
    (paid : ConstantProduct.lpBurn burned p.reserveA p.reserveB p.lpSupply = .ok (outA, outB)) :
    InRange { p with
      reserveA := p.reserveA - outA, reserveB := p.reserveB - outB,
      lpSupply := p.lpSupply - burned } := by
  have solvent := range.solvent
  obtain ⟨supply, paidA, paidB⟩ :=
    ConstantProduct.lpBurn_nonneg solvent.reserveA solvent.reserveB paid
  obtain ⟨nonneg, owned, _⟩ := ConstantProduct.of_lpBurn_ok supply paid
  obtain ⟨⟨leftA, leftB⟩, _⟩ := withdrawn_keeps solvent supply paid
  have ⟨⟨_, highA⟩, ⟨_, highB⟩, _, highSupply⟩ := range
  dsimp only at leftA leftB
  refine ⟨⟨leftA, ?_⟩, ⟨leftB, ?_⟩, ?_⟩ <;> dsimp only <;> omega

/-- A first deposit of a negative amount that changes the pool leaves it below zero. -/
theorem credited_negative {amountA : Int} {amountB : Option Int} {d : PoolStep.Deposit Int}
    (granted : p.Granted amountA amountB d) (empty : p.lpSupply = 0)
    (negative : amountA < 0 ∨ d.amountB < 0) (changed : p.credited amountA d ≠ p) :
    ¬(p.credited amountA d).InRange := by
  obtain ⟨emptyA, emptyB, _⟩ := granted.first empty
  intro range
  have fitsA : p.reserveA + amountA ≤ u64Max :=
    Int.not_lt.mp fun fullA => changed (credited_of_fullA fullA)
  have lowA := range.reserveA.1
  rw [reserveA_credited fitsA] at lowA
  have fitsB : p.reserveB + d.amountB ≤ u64Max := by
    simp only [u64Max]
    omega
  have lowB := range.reserveB.1
  rw [reserveB_credited fitsA fitsB] at lowB
  omega

end Pool

/-- A deposit of a negative amount that changes a pool without shares. -/
def PoolCall.OpensBelowZero (p q : Pool Int) : PoolCall → Prop
  | deposit amountA amountB =>
    p.lpSupply = 0 ∧ q ≠ p ∧ (amountA < 0 ∨ ∃ b, amountB = some b ∧ b < 0)
  | swap .. | withdraw .. => False

theorem PoolCall.Leaves.inRange_iff {p q : Pool Int} {call : PoolCall} (leaves : call.Leaves p q)
    (range : p.InRange) : q.InRange ↔ ¬call.OpensBelowZero p q := by
  cases leaves with
  | unchanged => cases call <;> simp [OpensBelowZero, range]
  | sold sold => simp [OpensBelowZero, Pool.exchanged_inRange range sold]
  | paidOut paid => simp [OpensBelowZero, Pool.withdrawn_inRange range paid]
  | @granted name amountA amountB d granted =>
      have granted := Pool.of_grant_ok granted
      by_cases empty : p.lpSupply = 0
      · obtain ⟨_, _, shares, _, given⟩ := granted.first empty
        constructor
        · rintro inRange ⟨_, changed, negative⟩
          refine Pool.credited_negative granted empty ?_ changed inRange
          simpa [given] using negative
        · intro nonneg
          by_cases changed : p.credited amountA d = p
          · rwa [changed]
          · have nonneg : ¬(amountA < 0 ∨ d.amountB < 0) := fun negative =>
              nonneg ⟨empty, changed, by simpa [given] using negative⟩
            rw [not_or] at nonneg
            exact Pool.credited_inRange range (by omega) (by omega) (by omega)
      · have supply : 0 < p.lpSupply := lt_of_le_of_ne range.lpSupply.1 (Ne.symm empty)
        obtain ⟨addedA, addedB, minted, _⟩ := Pool.of_minted range.solvent supply granted.minted
        simp [OpensBelowZero, empty, Pool.credited_inRange range addedA addedB minted]

/-- Every state that a pool reaches is in range, unless a first deposit of a negative amount goes
    through. -/
theorem PoolHistory.stays_in_range_iff {kind : VenueKind} {key : Key} {first last : Pool Int}
    {calls : List (PoolCall × Pool Int)} (history : PoolHistory kind key first calls last)
    (range : first.InRange) :
    (∀ reached ∈ calls, reached.2.InRange) ↔
      Every (fun p call q => ¬call.OpensBelowZero p q) first calls := by
  refine history.kept_iff (fun _ => True) (fun _ => True) ?_ (by simp) True.intro range
  intro p call q _ _ range leaves
  exact ⟨True.intro, leaves.inRange_iff range⟩

theorem pairPool_inRange : (pairPool 0 0 0).InRange := ⟨by decide, by decide, by decide⟩

/-- A pool is opened, refuses a deposit and a swap, and is emptied again. -/
def refusedCalls : List (PoolCall × Pool Int) :=
  [(.deposit 500 (some 700), pairPool 500 700 500),
    (.deposit (-5) (some (-7)), pairPool 500 700 500),
    (.swap (.text "B") (u64Max - 600) none 100, pairPool 500 700 500),
    (.withdraw 500, pairPool 0 0 0)]

theorem PoolHistory.opened_stays_in_range :
    PoolHistory .raydium (.text "A-B") (pairPool 0 0 0) refusedCalls (pairPool 0 0 0) ∧
      ∀ reached ∈ refusedCalls, reached.2.InRange := by
  have history : PoolHistory .raydium (.text "A-B") (pairPool 0 0 0) refusedCalls
      (pairPool 0 0 0) := by
    refine .cons (quietWorld _) (.text "A-B") _ rfl rfl (by rfl) ?_
    refine .cons (quietWorld _) (.text "A-B") _ rfl rfl (by rfl) ?_
    refine .cons (quietWorld _) (.text "A-B") _ rfl rfl (by rfl) ?_
    refine .cons (quietWorld _) (.text "A-B") _ rfl rfl (by rfl) ?_
    exact .nil _
  refine ⟨history, (history.stays_in_range_iff pairPool_inRange).mpr ?_⟩
  simp [refusedCalls, Every, PoolCall.OpensBelowZero, pairPool]

/-- The first deposit into a pool may be one of negative amounts. -/
theorem PoolHistory.opened_below_zero :
    PoolHistory .raydium (.text "A-B") (pairPool 0 0 0)
        [(.deposit (-5) (some (-7)), pairPool (-5) (-7) (-5))] (pairPool (-5) (-7) (-5)) ∧
      (pairPool 0 0 0).InRange ∧ ¬(pairPool (-5) (-7) (-5)).InRange := by
  refine ⟨.cons (quietWorld _) (.text "A-B") _ rfl rfl (by rfl) (.nil _), pairPool_inRange, ?_⟩
  intro range
  exact absurd range.reserveA.1 (by decide)

end TradingEngine
