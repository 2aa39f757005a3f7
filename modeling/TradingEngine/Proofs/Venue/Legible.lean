import TradingEngine.Proofs.Strategy.Leg
import TradingEngine.Proofs.Venue.Atomic

/-! # Pools that stay legible

The reserves of a pool are shown when it is traded with, so they have to be numbers that can be
written. A call keeps them so if the amounts that it names can be written: what a swap takes in and
pays are amounts of 64 bits, and a withdrawal takes no reserve further away from zero.
-/

namespace TradingEngine

open Quantity

namespace PoolStep

theorem swap_ends (p : Pool Int) (token : Name) (amountIn : Int) (minimumOut : Option Int)
    (slippageBps : Int) :
    ((swap token amountIn minimumOut slippageBps).result p).1 =
      p.sale token amountIn minimumOut slippageBps := by
  rw [result_swap]
  cases p.sale token amountIn minimumOut slippageBps <;> rfl

theorem deposit_ends (p : Pool Int) (name : Name) (amountA : Int) (amountB : Option Int) :
    ((deposit name amountA amountB).result p).1 =
      (p.grant name amountA amountB >>= p.room amountA) := by
  rw [result_deposit]
  cases p.grant name amountA amountB <;> rfl

end PoolStep

namespace Pool

/-- The reserves can be written. -/
structure Legible (p : Pool Int) : Prop where
  reserveA : Numeral.isWritable p.reserveA = true
  reserveB : Numeral.isWritable p.reserveB = true

variable {p : Pool Int} {token name : Name} {amountIn amountA burned outA outB : Int}
  {amountB : Option Int} {d : PoolStep.Deposit Int}

/-- What has grown and still fits can be written. -/
theorem grown_isWritable {n grown : Int} (more : n ≤ grown) (fits : grown ≤ u64Max)
    (writable : Numeral.isWritable n = true) : Numeral.isWritable grown = true := by
  by_cases sign : 0 ≤ grown
  · exact Numeral.isWritable_of_u64 sign fits
  · exact Numeral.isWritable_of_natAbs_le (by omega) writable

theorem Legible.exchanged {slippageBps out : Int} {minimumOut : Option Int} (legible : p.Legible)
    (sold : p.sale token amountIn minimumOut slippageBps = .ok out) :
    (p.exchanged token amountIn out).Legible := by
  obtain ⟨quoted, fits, _⟩ := sale_eq sold
  obtain ⟨nonneg, earned, covered⟩ := quote_covered quoted
  unfold Pool.exchanged
  split at fits <;> rename_i side
  · rw [if_pos side] at covered ⊢
    refine ⟨grown_isWritable (by dsimp only; omega) fits legible.reserveA, ?_⟩
    exact Numeral.isWritable_of_natAbs_le (by dsimp only; omega) legible.reserveB
  · rw [if_neg side] at covered ⊢
    refine ⟨?_, grown_isWritable (by dsimp only; omega) fits legible.reserveB⟩
    exact Numeral.isWritable_of_natAbs_le (by dsimp only; omega) legible.reserveA

/-! ### Deposits -/

/-- The second amount of a deposit, given or not, can be written. -/
theorem Granted.amountB_isWritable (granted : p.Granted amountA amountB d)
    (given : ∀ b, amountB = some b → Numeral.isWritable b = true) :
    Numeral.isWritable d.amountB = true := by
  by_cases empty : p.lpSupply = 0
  · exact given _ (granted.first empty).2.2.2.2
  · obtain ⟨_, _, ⟨low, high⟩, _⟩ := ConstantProduct.lpMint_eq (granted.later empty)
    exact Numeral.isWritable_of_u64 low high

theorem Granted.minted_isWritable (granted : p.Granted amountA amountB d)
    (given : Numeral.isWritable amountA = true) : Numeral.isWritable d.minted = true := by
  by_cases empty : p.lpSupply = 0
  · rw [(granted.first empty).2.2.1]
    exact given
  · obtain ⟨supply, amount, second, shareA, shareB, dividedA, dividedB, least, fits⟩ :=
      ConstantProduct.lpMint_eq (granted.later empty)
    -- A share of a reserve below zero may be negative, but no further from zero than the product.
    have partOf {n reserve share : Int} (low : 0 ≤ n ∧ n ≤ u64Max)
        (divided : Checked.quotient (n * p.lpSupply) reserve = .ok share) : -2 ^ 128 ≤ share := by
      have smaller := Int.natAbs_fdiv_le_natAbs (n * p.lpSupply) reserve
      rw [← (Checked.of_quotient_ok divided).2] at smaller
      have bounded : n * p.lpSupply ≤ u64Max * u64Max :=
        mul_le_mul low.2 supply.2 supply.1 (by decide)
      have nonneg := mul_nonneg low.1 supply.1
      simp only [u64Max] at bounded
      omega
    have lowA := partOf amount dividedA
    have lowB := partOf second dividedB
    simp only [u64Max] at fits
    exact Numeral.isWritable_of_small (by omega) (by omega)

theorem Granted.legible (granted : p.Granted amountA amountB d) (legible : p.Legible)
    (givenA : Numeral.isWritable amountA = true)
    (givenB : ∀ b, amountB = some b → Numeral.isWritable b = true) :
    (p.credited amountA d).Legible := by
  have second := granted.amountB_isWritable givenB
  -- A reserve of a pool without shares is empty, and no later deposit takes from a reserve.
  have grown : (p.reserveA + amountA ≤ u64Max →
      Numeral.isWritable (p.reserveA + amountA) = true) ∧
      (p.reserveB + d.amountB ≤ u64Max → Numeral.isWritable (p.reserveB + d.amountB) = true) := by
    by_cases empty : p.lpSupply = 0
    · obtain ⟨emptyA, emptyB, _⟩ := granted.first empty
      rw [emptyA, emptyB, Int.zero_add, Int.zero_add]
      exact ⟨fun _ => givenA, fun _ => second⟩
    · obtain ⟨_, ⟨lowA, _⟩, ⟨lowB, _⟩, _⟩ := ConstantProduct.lpMint_eq (granted.later empty)
      exact ⟨fun fits => grown_isWritable (by omega) fits legible.reserveA,
        fun fits => grown_isWritable (by omega) fits legible.reserveB⟩
  unfold credited
  split
  · exact legible
  rename_i fitsA
  split
  · exact ⟨grown.1 (Int.not_lt.mp fitsA), legible.reserveB⟩
  rename_i fitsB
  split <;> exact ⟨grown.1 (Int.not_lt.mp fitsA), grown.2 (Int.not_lt.mp fitsB)⟩

theorem grant_worded (named : name.isWritable = true) : Worded (p.grant name amountA amountB) := by
  have earned (b : Int) : Worded (do
      let minted ← p.minted amountA b
      if isZero minted then refuse (.depositTooSmall (Quantity.toJson amountA) (Quantity.toJson b))
      return ⟨b, minted⟩ : Except Fault (PoolStep.Deposit Int)) := by
    refine worded_bind ?_ fun minted _ => ?_
    · unfold Pool.minted
      split
      · exact worded_ok _
      · exact (ConstantProduct.lpMint_overflows _ _ _ _ _).worded
    · cases isZero minted with
      | true => exact worded_refuse rfl
      | false => exact worded_ok _
  unfold grant
  cases p.isUnowned with
  | true =>
      refine worded_refuse ?_
      simp only [Cause.shownValues, Json.allWritable, named, Bool.and_self]
  | false =>
      cases amountB with
      | some b => exact earned b
      | none =>
          refine worded_bind ?_ fun b _ => earned b
          exact (overflows_bind (Checked.product_overflows _ _) fun _ _ =>
            Checked.quotient_overflows _ _).worded

theorem of_room_ok {given : PoolStep.Deposit Int} (h : p.room amountA given = .ok d) :
    d = given := by
  obtain ⟨_, _, h⟩ := Except.of_bind_ok h
  obtain ⟨_, _, h⟩ := Except.of_bind_ok h
  obtain ⟨_, _, h⟩ := Except.of_bind_ok h
  exact (Except.ok.inj h).symm

theorem room_worded (p : Pool Int) (amountA : Int) (d : PoolStep.Deposit Int) :
    Worded (p.room amountA d) :=
  (overflows_bind (Checked.toU64_overflows _) fun _ _ =>
    overflows_bind (Checked.toU64_overflows _) fun _ _ =>
      overflows_bind (Checked.toU64_overflows _) fun _ _ => overflows_ok d).worded

/-! ### Withdrawals -/

/-- What is left of a reserve is no further away from zero. -/
theorem left_isWritable {reserve supply out : Int} (nonneg : 0 ≤ burned) (owned : burned ≤ supply)
    (divided : Checked.quotient (burned * reserve) supply = .ok out)
    (writable : Numeral.isWritable reserve = true) :
    Numeral.isWritable (reserve - out) = true := by
  obtain ⟨nonzero, rounded⟩ := Checked.of_quotient_ok divided
  have positive : 0 < supply := by omega
  rw [Int.fdiv_eq_ediv_of_nonneg _ (Int.le_of_lt positive)] at rounded
  refine Numeral.isWritable_of_natAbs_le ?_ writable
  rcases Int.le_total 0 reserve with sign | sign
  · have low := Int.ediv_nonneg (Int.mul_nonneg nonneg sign) (Int.le_of_lt positive)
    have high : burned * reserve / supply ≤ reserve := by
      refine Int.ediv_le_of_le_mul positive ?_
      rw [Int.mul_comm reserve]
      exact Int.mul_le_mul_of_nonneg_right owned sign
    omega
  · have low : reserve ≤ burned * reserve / supply := by
      refine Int.le_ediv_of_mul_le positive ?_
      rw [Int.mul_comm reserve]
      exact Int.mul_le_mul_of_nonpos_right owned sign
    have high : burned * reserve / supply ≤ 0 := by
      refine Int.ediv_le_of_le_mul positive ?_
      rw [Int.zero_mul]
      exact Int.mul_nonpos_of_nonneg_of_nonpos nonneg sign
    omega

theorem Legible.withdrawn (legible : p.Legible)
    (paid : ConstantProduct.lpBurn burned p.reserveA p.reserveB p.lpSupply = .ok (outA, outB)) :
    Legible { p with
      reserveA := p.reserveA - outA, reserveB := p.reserveB - outB
      lpSupply := p.lpSupply - burned } := by
  obtain ⟨⟨nonneg, _⟩, owned, ⟨dividedA, _⟩, dividedB, _⟩ := ConstantProduct.lpBurn_eq paid
  exact ⟨left_isWritable nonneg owned dividedA legible.reserveA,
    left_isWritable nonneg owned dividedB legible.reserveB⟩

theorem withdraw_worded (p : Pool Int) (amountA : Int) :
    Worded ((PoolStep.withdraw amountA).result p).1 := by
  simp only [PoolStep.withdraw, PoolStep.result_bind, PoolStep.result_get,
    PoolStep.result_ofExcept]
  have shares : Worded (p.sharesWorth amountA) :=
    (overflows_bind (Checked.product_overflows _ _) fun _ _ =>
      Checked.quotient_overflows _ _).worded
  cases worth : p.sharesWorth amountA with
  | error f =>
      intro g failed
      cases failed
      exact shares f worth
  | ok burned =>
      dsimp only
      cases paid : ConstantProduct.lpBurn burned p.reserveA p.reserveB p.lpSupply with
      | error f =>
          intro g failed
          cases failed
          exact (ConstantProduct.lpBurn_overflows _ _ _ _).worded f paid
      | ok outs => exact worded_ok _

/-! ### Steps -/

/-- What a call upholds of a pool: its tokens, and that its reserves can be written if what it names
    is legible. -/
structure Upheld (given : Prop) (p q : Pool Int) : Prop where
  tokenA : q.tokenA = p.tokenA
  tokenB : q.tokenB = p.tokenB
  legible : given → p.Legible → q.Legible

variable {given : Prop}

theorem upheld_self (p : Pool Int) : Upheld given p p := ⟨rfl, rfl, fun _ legible => legible⟩

theorem swap_upholds (p : Pool Int) (token : Name) (amountIn : Int) (minimumOut : Option Int)
    (slippageBps : Int) :
    Upheld given p ((PoolStep.swap token amountIn minimumOut slippageBps).result p).2 := by
  rw [PoolStep.result_swap]
  cases sold : p.sale token amountIn minimumOut slippageBps with
  | error f => exact upheld_self p
  | ok out =>
      refine ⟨?_, ?_, fun _ legible => legible.exchanged sold⟩ <;>
        · dsimp only [exchanged]
          split <;> rfl

theorem deposit_upholds (p : Pool Int) (name : Name)
    (givenA : given → Numeral.isWritable amountA = true)
    (givenB : given → ∀ b, amountB = some b → Numeral.isWritable b = true) :
    Upheld given p ((PoolStep.deposit name amountA amountB).result p).2 := by
  rw [PoolStep.result_deposit]
  cases granted : p.grant name amountA amountB with
  | error f => exact upheld_self p
  | ok d =>
      refine ⟨?_, ?_, fun read legible =>
        (of_grant_ok granted).legible legible (givenA read) (givenB read)⟩ <;>
        · dsimp only [credited]
          split
          · rfl
          split
          · rfl
          split <;> rfl

theorem withdraw_upholds (p : Pool Int) (amountA : Int) :
    Upheld given p ((PoolStep.withdraw amountA).result p).2 := by
  rcases PoolStep.withdraw_outcome p amountA with ⟨f, done⟩ | ⟨burned, outA, outB, paid, done⟩
  · rw [done]
    exact upheld_self p
  · rw [done]
    exact ⟨rfl, rfl, fun _ legible => legible.withdrawn paid⟩

end Pool

end TradingEngine
