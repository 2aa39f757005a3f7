import Mathlib.Tactic.Positivity
import Mathlib.Tactic.Ring
import TradingEngine.Proofs.Venue.Calls

/-! # What a share of a pool is worth

The owners of a pool are never worse off for a call on it: the product of the reserves over the
square of the supply does not fall, neither by swaps in both directions nor by deposits nor by
withdrawals, in any order, and a call that breaks off half way can only have added to the reserves.
-/

namespace TradingEngine

open Engine Quantity

namespace Pool

/-- No reserve is negative. -/
structure Solvent (p : Pool Int) : Prop where
  reserveA : 0 ≤ p.reserveA
  reserveB : 0 ≤ p.reserveB

/-- A share of the second pool is worth at least a share of the first one: its part of the product
    of the reserves has not fallen. -/
def WorthNoLess (p q : Pool Int) : Prop :=
  p.reserveA * p.reserveB * q.lpSupply ^ 2 ≤ q.reserveA * q.reserveB * p.lpSupply ^ 2

namespace WorthNoLess

variable {p q r : Pool Int}

theorem refl (p : Pool Int) : p.WorthNoLess p := Int.le_refl _

theorem trans (supply : 0 < q.lpSupply) (h : p.WorthNoLess q) (k : q.WorthNoLess r) :
    p.WorthNoLess r := by
  unfold WorthNoLess at *
  have positive : 0 < q.lpSupply ^ 2 := by positivity
  refine le_of_mul_le_mul_right ?_ positive
  calc p.reserveA * p.reserveB * r.lpSupply ^ 2 * q.lpSupply ^ 2
      = p.reserveA * p.reserveB * q.lpSupply ^ 2 * r.lpSupply ^ 2 := by ring
    _ ≤ q.reserveA * q.reserveB * p.lpSupply ^ 2 * r.lpSupply ^ 2 :=
        mul_le_mul_of_nonneg_right h (sq_nonneg _)
    _ = q.reserveA * q.reserveB * r.lpSupply ^ 2 * p.lpSupply ^ 2 := by ring
    _ ≤ r.reserveA * r.reserveB * q.lpSupply ^ 2 * p.lpSupply ^ 2 :=
        mul_le_mul_of_nonneg_right k (sq_nonneg _)
    _ = r.reserveA * r.reserveB * p.lpSupply ^ 2 * q.lpSupply ^ 2 := by ring

/-- Where the supply stays, only the product of the reserves matters. -/
theorem of_product (same : q.lpSupply = p.lpSupply)
    (product : p.reserveA * p.reserveB ≤ q.reserveA * q.reserveB) : p.WorthNoLess q := by
  unfold WorthNoLess
  rw [same]
  exact mul_le_mul_of_nonneg_right product (sq_nonneg _)

/-- It is enough that a share's part of neither reserve has fallen. -/
theorem of_parts (solvent : p.Solvent) (supply : 0 ≤ q.lpSupply)
    (partA : p.reserveA * q.lpSupply ≤ q.reserveA * p.lpSupply)
    (partB : p.reserveB * q.lpSupply ≤ q.reserveB * p.lpSupply) : p.WorthNoLess q := by
  have nonnegA : 0 ≤ p.reserveA * q.lpSupply := mul_nonneg solvent.reserveA supply
  have nonnegB : 0 ≤ p.reserveB * q.lpSupply := mul_nonneg solvent.reserveB supply
  unfold WorthNoLess
  calc p.reserveA * p.reserveB * q.lpSupply ^ 2
      = p.reserveA * q.lpSupply * (p.reserveB * q.lpSupply) := by ring
    _ ≤ q.reserveA * p.lpSupply * (q.reserveB * p.lpSupply) :=
        mul_le_mul partA partB nonnegB (le_trans nonnegA partA)
    _ = q.reserveA * q.reserveB * p.lpSupply ^ 2 := by ring

end WorthNoLess

/-! ### One step -/

/-- A swap takes the one reserve up and the other one down, and not below zero. -/
theorem exchanged_keeps {p : Pool Int} {token : Name} {amountIn out : Int} (solvent : p.Solvent)
    (quoted : p.quote token amountIn = .ok out) :
    (p.exchanged token amountIn out).Solvent ∧
      (p.exchanged token amountIn out).lpSupply = p.lpSupply ∧
      p.reserveA * p.reserveB ≤
        (p.exchanged token amountIn out).reserveA * (p.exchanged token amountIn out).reserveB := by
  obtain ⟨sides, found, paid⟩ := Except.of_bind_ok quoted
  obtain ⟨nonneg, _, covered, product⟩ := ConstantProduct.of_swapOutput_ok paid
  have ⟨nonnegA, nonnegB⟩ := solvent
  unfold Pool.sides at found
  unfold exchanged
  cases soldA : Json.same token p.tokenA with
  | true =>
      simp only [soldA, if_true] at found ⊢
      cases found
      exact ⟨⟨by simp only; omega, by simp only at *; omega⟩, trivial, product⟩
  | false =>
      simp only [soldA, Bool.false_eq_true, if_false] at found ⊢
      cases soldB : Json.same token p.tokenB with
      | false =>
          simp only [soldB, Bool.false_eq_true, if_false] at found
          cases found
      | true =>
          simp only [soldB, if_true] at found
          cases found
          refine ⟨⟨by simp only at *; omega, by simp only; omega⟩, trivial, ?_⟩
          rw [mul_comm p.reserveA, mul_comm (p.reserveA - out)]
          exact product

/-- The shares of a deposit are their part of what it adds to either reserve, or less. -/
theorem of_minted {p : Pool Int} {amountA amountB minted : Int} (solvent : p.Solvent)
    (supply : 0 < p.lpSupply) (earned : p.minted amountA amountB = .ok minted) :
    0 ≤ amountA ∧ 0 ≤ amountB ∧ 0 ≤ minted ∧
      minted * p.reserveA ≤ amountA * p.lpSupply ∧ minted * p.reserveB ≤ amountB * p.lpSupply := by
  have some_shares : ¬p.lpSupply = 0 := by omega
  simp only [Pool.minted, isZero_int, some_shares, decide_false, Bool.false_eq_true,
    if_false] at earned
  exact ConstantProduct.of_lpMint_ok solvent.reserveA solvent.reserveB earned

theorem credited_solvent {p : Pool Int} {amountA : Int} {d : PoolStep.Deposit Int}
    (solvent : p.Solvent) (addedA : 0 ≤ amountA) (addedB : 0 ≤ d.amountB) :
    (p.credited amountA d).Solvent := by
  have ⟨nonnegA, nonnegB⟩ := solvent
  unfold credited
  split
  · exact solvent
  split
  · exact ⟨add_nonneg nonnegA addedA, nonnegB⟩
  split <;> exact ⟨add_nonneg nonnegA addedA, add_nonneg nonnegB addedB⟩

/-- A deposit that breaks off has added to the reserves for no shares at all. -/
theorem credited_keeps {p : Pool Int} {amountA : Int} {amountB : Option Int}
    {d : PoolStep.Deposit Int} (solvent : p.Solvent) (supply : 0 < p.lpSupply)
    (granted : p.Granted amountA amountB d) :
    (p.credited amountA d).Solvent ∧ p.WorthNoLess (p.credited amountA d) := by
  have ⟨nonnegA, nonnegB⟩ := solvent
  obtain ⟨addedA, addedB, nonneg, shareA, shareB⟩ := of_minted solvent supply granted.minted
  refine ⟨credited_solvent solvent addedA addedB, ?_⟩
  unfold credited
  split
  · exact .refl p
  split
  · refine .of_product rfl ?_
    exact mul_le_mul_of_nonneg_right (by simp only; omega) nonnegB
  split
  · refine .of_product rfl ?_
    exact mul_le_mul (by simp only; omega) (by simp only; omega) nonnegB
      (add_nonneg nonnegA addedA)
  · refine .of_parts solvent (add_nonneg (le_of_lt supply) nonneg) ?_ ?_
    · simp only [mul_add, add_mul, mul_comm p.reserveA d.minted]
      omega
    · simp only [mul_add, add_mul, mul_comm p.reserveB d.minted]
      omega

theorem withdrawn_keeps {p : Pool Int} {burned outA outB : Int} (solvent : p.Solvent)
    (supply : 0 < p.lpSupply)
    (paid : ConstantProduct.lpBurn burned p.reserveA p.reserveB p.lpSupply = .ok (outA, outB)) :
    Solvent { p with
      reserveA := p.reserveA - outA, reserveB := p.reserveB - outB,
      lpSupply := p.lpSupply - burned } ∧
    p.WorthNoLess { p with
      reserveA := p.reserveA - outA, reserveB := p.reserveB - outB,
      lpSupply := p.lpSupply - burned } := by
  have ⟨nonnegA, nonnegB⟩ := solvent
  obtain ⟨nonneg, owned, shareA, shareB⟩ := ConstantProduct.of_lpBurn_ok supply paid
  dsimp only at shareA shareB
  have coveredA : outA ≤ p.reserveA := by
    have part := le_trans shareA (mul_le_mul_of_nonneg_right owned nonnegA)
    rw [mul_comm] at part
    exact le_of_mul_le_mul_left part supply
  have coveredB : outB ≤ p.reserveB := by
    have part := le_trans shareB (mul_le_mul_of_nonneg_right owned nonnegB)
    rw [mul_comm] at part
    exact le_of_mul_le_mul_left part supply
  refine ⟨⟨sub_nonneg.mpr coveredA, sub_nonneg.mpr coveredB⟩, .of_parts solvent ?_ ?_ ?_⟩
  · exact sub_nonneg.mpr owned
  · simp only [mul_sub, sub_mul, mul_comm p.reserveA burned]
    omega
  · simp only [mul_sub, sub_mul, mul_comm p.reserveB burned]
    omega

end Pool

/-! ### Runs of calls -/

namespace PoolCall

variable {kind : VenueKind} {key : Key} {name : Name} {w : World Int} {p : Pool Int}

/-- What a call keeps of a pool that it leaves. -/
theorem Leaves.keeps {call : PoolCall} {q : Pool Int} (leaves : call.Leaves p q)
    (solvent : p.Solvent) :
    (0 < p.lpSupply → q.Solvent ∧ p.WorthNoLess q) ∧
      (call.isSwap → q.Solvent ∧ p.reserveA * p.reserveB ≤ q.reserveA * q.reserveB) := by
  cases leaves with
  | unchanged => exact ⟨fun _ => ⟨solvent, .refl p⟩, fun _ => ⟨solvent, le_refl _⟩⟩
  | sold sold =>
      obtain ⟨kept, same, product⟩ := Pool.exchanged_keeps solvent (Pool.of_sale_ok sold)
      exact ⟨fun _ => ⟨kept, .of_product same product⟩, fun _ => ⟨kept, product⟩⟩
  | granted granted =>
      exact ⟨fun supply => Pool.credited_keeps solvent supply (Pool.of_grant_ok granted),
        fun h => nomatch h⟩
  | paidOut paid =>
      exact ⟨fun supply => Pool.withdrawn_keeps solvent supply paid, fun h => nomatch h⟩

theorem pool_after (named : Key.ofName name = .ok key) (held : w.pool? kind key = some p)
    (solvent : p.Solvent) (call : PoolCall) :
    ∃ q, (call.after kind name w).pool? kind key = some q ∧
      (0 < p.lpSupply → q.Solvent ∧ p.WorthNoLess q) ∧
      (call.isSwap → q.Solvent ∧ p.reserveA * p.reserveB ≤ q.reserveA * q.reserveB) := by
  obtain ⟨q, there, leaves⟩ := call.leaves_after named held
  exact ⟨q, there, leaves.keeps solvent⟩

end PoolCall

namespace PoolHistory

variable {kind : VenueKind} {key : Key} {first last : Pool Int}
  {calls : List (PoolCall × Pool Int)}

theorem worth_no_less (history : PoolHistory kind key first calls last) (solvent : first.Solvent)
    (supply : 0 < first.lpSupply) (along : ∀ step ∈ calls, 0 < step.2.lpSupply) :
    first.WorthNoLess last := by
  induction history with
  | nil p => exact .refl p
  | cons w name call named held left _ ih =>
      obtain ⟨q, there, keeps, _⟩ := call.pool_after named held solvent
      cases left.symm.trans there
      obtain ⟨kept, worth⟩ := keeps supply
      have positive := along _ List.mem_cons_self
      exact worth.trans positive
        (ih kept positive fun step member => along step (List.mem_cons_of_mem _ member))

theorem product_kept (history : PoolHistory kind key first calls last) (solvent : first.Solvent)
    (swaps : ∀ step ∈ calls, step.1.isSwap = true) :
    first.reserveA * first.reserveB ≤ last.reserveA * last.reserveB := by
  induction history with
  | nil p => exact le_refl _
  | cons w name call named held left _ ih =>
      obtain ⟨q, there, _, keeps⟩ := call.pool_after named held solvent
      cases left.symm.trans there
      obtain ⟨kept, product⟩ := keeps (swaps _ List.mem_cons_self)
      exact le_trans product
        (ih kept fun step member => swaps step (List.mem_cons_of_mem _ member))

end PoolHistory

/-- Over any calls on a pool along which shares are left, what stands behind one share does not
    fall; over swaps alone the product of the reserves does not fall, whatever the supply. -/
theorem PoolHistory.share_value_kept {kind : VenueKind} {key : Key} {first last : Pool Int}
    {calls : List (PoolCall × Pool Int)} (history : PoolHistory kind key first calls last)
    (solvent : 0 ≤ first.reserveA ∧ 0 ≤ first.reserveB) :
    (0 < first.lpSupply → (∀ step ∈ calls, 0 < step.2.lpSupply) →
      first.reserveA * first.reserveB * last.lpSupply ^ 2 ≤
        last.reserveA * last.reserveB * first.lpSupply ^ 2) ∧
    ((∀ step ∈ calls, step.1.isSwap = true) →
      first.reserveA * first.reserveB ≤ last.reserveA * last.reserveB) :=
  ⟨history.worth_no_less ⟨solvent.1, solvent.2⟩, history.product_kept ⟨solvent.1, solvent.2⟩⟩

/-- A world that journals in silence, with one pool. -/
def quietWorld (p : Pool Int) : World Int :=
  { settings := .standard
    journal := { threshold := 60 }
    venues := [(.raydium, .paper { kind := .raydium, pools := [(.text "A-B", p)] })] }

def pairPool (reserveA reserveB lpSupply : Int) : Pool Int :=
  { tokenA := .text "A", tokenB := .text "B", reserveA, reserveB, feeBps := 30, lpSupply }

theorem pairPool_history : PoolHistory .raydium (.text "A-B") (pairPool 1000 4000 1000)
    [(.swap (.text "A") 100 none 100, pairPool 1100 3640 1000),
      (.deposit 110 none, pairPool 1210 4004 1100),
      (.withdraw 121, pairPool 1089 3604 990)] (pairPool 1089 3604 990) := by
  refine .cons (quietWorld _) (.text "A-B") _ rfl rfl (by rfl) ?_
  refine .cons (quietWorld _) (.text "A-B") _ rfl rfl (by rfl) ?_
  refine .cons (quietWorld _) (.text "A-B") _ rfl rfl (by rfl) ?_
  exact .nil _

theorem PoolHistory.pairPool_share_value :
    (pairPool 1000 4000 1000).reserveA * (pairPool 1000 4000 1000).reserveB *
        (pairPool 1089 3604 990).lpSupply ^ 2 ≤
      (pairPool 1089 3604 990).reserveA * (pairPool 1089 3604 990).reserveB *
        (pairPool 1000 4000 1000).lpSupply ^ 2 :=
  (pairPool_history.share_value_kept ⟨by decide, by decide⟩).1 (by decide) (by decide)

end TradingEngine
