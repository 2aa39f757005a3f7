import TradingEngine.Proofs.Venue.Paper

/-! # Calls on a pool

A swap, a deposit or a withdrawal on one pool of a paper venue leaves the pool as it was or goes
through, a deposit as far as the pool has room for it. What every single call keeps is kept over a
history of calls, whichever of them fill and whatever happens to the rest of the world in between.
-/

namespace TradingEngine

open Engine Quantity

/-- A call on one pool of a venue. -/
inductive PoolCall where
  | swap (token : Name) (amountIn : Int) (minimumOut : Option Int) (slippageBps : Int)
  | deposit (amountA : Int) (amountB : Option Int)
  | withdraw (amountA : Int)

namespace PoolCall

/-- Whether a call is a swap. -/
def isSwap : PoolCall → Bool
  | swap .. => true
  | deposit .. | withdraw .. => false

/-- The world after a call on the pool with this name, whether it has filled or not. -/
def after (kind : VenueKind) (name : Name) (w : World Int) : PoolCall → World Int
  | swap token amountIn minimumOut slippageBps =>
    ((Trade.swap kind name token amountIn minimumOut slippageBps).result w).2
  | deposit amountA amountB => ((Trade.deposit kind name amountA amountB).result w).2
  | withdraw amountA => ((Trade.withdraw kind name amountA).result w).2

/-- What a call can leave of a pool. -/
inductive Leaves (p : Pool Int) : PoolCall → Pool Int → Prop
  | unchanged (call : PoolCall) : Leaves p call p
  | sold {token : Name} {amountIn slippageBps out : Int} {minimumOut : Option Int} :
      p.sale token amountIn minimumOut slippageBps = .ok out →
      Leaves p (.swap token amountIn minimumOut slippageBps) (p.exchanged token amountIn out)
  | granted {name : Name} {amountA : Int} {amountB : Option Int} {d : PoolStep.Deposit Int} :
      p.grant name amountA amountB = .ok d →
      Leaves p (.deposit amountA amountB) (p.credited amountA d)
  | paidOut {amountA burned outA outB : Int} :
      ConstantProduct.lpBurn burned p.reserveA p.reserveB p.lpSupply = .ok (outA, outB) →
      Leaves p (.withdraw amountA)
        { p with
          reserveA := p.reserveA - outA, reserveB := p.reserveB - outB
          lpSupply := p.lpSupply - burned }

/-- The pool is always there after a call. -/
theorem leaves_after {kind : VenueKind} {key : Key} {name : Name} {w : World Int} {p : Pool Int}
    (named : Key.ofName name = .ok key) (held : w.pool? kind key = some p) (call : PoolCall) :
    ∃ q, (call.after kind name w).pool? kind key = some q ∧ call.Leaves p q := by
  cases call with
  | swap token amountIn minimumOut slippageBps =>
      rcases World.pool?_of_either held
        (Trade.venues_swap named held token amountIn minimumOut slippageBps) with same | changed
      · exact ⟨p, same, .unchanged _⟩
      · rw [PoolStep.result_swap] at changed
        cases sold : p.sale token amountIn minimumOut slippageBps with
        | error f =>
            rw [sold] at changed
            exact ⟨p, changed, .unchanged _⟩
        | ok out =>
            rw [sold] at changed
            exact ⟨_, changed, .sold sold⟩
  | deposit amountA amountB =>
      refine ⟨_, World.pool?_of_checked held (Trade.venues_deposit named held amountA amountB), ?_⟩
      split
      · exact .unchanged _
      · rw [PoolStep.result_deposit]
        cases granted : p.grant name amountA amountB with
        | error f => exact .unchanged _
        | ok d => exact .granted granted
  | withdraw amountA =>
      refine ⟨_, World.pool?_of_checked held (Trade.venues_withdraw named held amountA), ?_⟩
      split
      · exact .unchanged _
      · rcases PoolStep.withdraw_outcome p amountA with ⟨f, done⟩ | ⟨burned, outA, outB, paid, done⟩
        · rw [done]
          exact .unchanged _
        · rw [done]
          exact .paidOut paid

end PoolCall

/-- Calls on one pool of a paper venue, each with what it left of the pool. Between two calls
    anything but the pool may change. -/
inductive PoolHistory (kind : VenueKind) (key : Key) :
    Pool Int → List (PoolCall × Pool Int) → Pool Int → Prop
  | nil (p : Pool Int) : PoolHistory kind key p [] p
  | cons {p q last : Pool Int} {rest : List (PoolCall × Pool Int)} (w : World Int) (name : Name)
      (call : PoolCall) :
      Key.ofName name = .ok key → w.pool? kind key = some p →
      (call.after kind name w).pool? kind key = some q →
      PoolHistory kind key q rest last → PoolHistory kind key p ((call, q) :: rest) last

namespace PoolHistory

/-- Whether something holds of every call, given the pool before and the pool after it. -/
def Every (P : Pool Int → PoolCall → Pool Int → Prop) :
    Pool Int → List (PoolCall × Pool Int) → Prop
  | _, [] => True
  | p, (call, q) :: rest => P p call q ∧ Every P q rest

/-- Over calls that keep an invariant, what is good about a pool is kept by exactly those histories
    of which each call keeps it. -/
theorem kept_iff {kind : VenueKind} {key : Key} {first last : Pool Int}
    {calls : List (PoolCall × Pool Int)} {Good : Pool Int → Prop}
    {Keeps : Pool Int → PoolCall → Pool Int → Prop}
    (history : PoolHistory kind key first calls last) (Asked : PoolCall → Prop)
    (Inv : Pool Int → Prop)
    (step : ∀ p call q, Asked call → Inv p → Good p → call.Leaves p q →
      Inv q ∧ (Good q ↔ Keeps p call q))
    (asked : ∀ reached ∈ calls, Asked reached.1) (start : Inv first) (good : Good first) :
    (∀ reached ∈ calls, Good reached.2) ↔ Every Keeps first calls := by
  induction history with
  | nil p => simp [Every]
  | cons w name call named held left _ ih =>
      obtain ⟨q, there, leaves⟩ := call.leaves_after named held
      cases left.symm.trans there
      obtain ⟨next, keeps⟩ := step _ call _ (asked _ List.mem_cons_self) start good leaves
      have later := ih (fun reached member => asked reached (List.mem_cons_of_mem _ member)) next
      constructor
      · intro all
        have good := all _ List.mem_cons_self
        exact ⟨keeps.mp good,
          (later good).mp fun reached member => all reached (List.mem_cons_of_mem _ member)⟩
      · rintro ⟨kept, rest⟩ reached member
        have good := keeps.mpr kept
        rcases List.mem_cons.mp member with rfl | member
        · exact good
        · exact (later good).mpr rest reached member

end PoolHistory

end TradingEngine
