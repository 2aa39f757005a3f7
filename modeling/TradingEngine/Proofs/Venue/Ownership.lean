import TradingEngine.Proofs.Venue.ShareValue

/-! # Reserves without an owner

Calls that ask for no negative amounts keep every reserve owned by shares, except in a pool without
shares: a swap into it is taken in though it pays nothing, and a first deposit whose second amount
is larger than a reserve may be breaks off when the first one is written. A pool that has come to
this grants no deposit and pays out nothing any more.
-/

namespace TradingEngine

open Engine Quantity

namespace Pool

variable {p : Pool Int}

/-- Who burns the whole supply is paid both reserves to the last unit. -/
theorem withdrawn_owned {burned outA outB : Int}
    (paid : ConstantProduct.lpBurn burned p.reserveA p.reserveB p.lpSupply = .ok (outA, outB)) :
    Owned { p with
      reserveA := p.reserveA - outA, reserveB := p.reserveB - outB,
      lpSupply := p.lpSupply - burned } := by
  obtain ⟨_, _, ⟨dividedA, _⟩, dividedB, _⟩ := ConstantProduct.lpBurn_eq paid
  obtain ⟨supply, shareA⟩ := Checked.of_quotient_ok dividedA
  obtain ⟨_, shareB⟩ := Checked.of_quotient_ok dividedB
  intro empty
  have whole : burned = p.lpSupply := by
    dsimp only at empty
    omega
  subst whole
  rw [Int.mul_fdiv_cancel_left _ supply] at shareA shareB
  subst shareA shareB
  exact ⟨Int.sub_self _, Int.sub_self _⟩

theorem exchanged_nothing (token : Name) : p.exchanged token 0 0 = p := by
  unfold exchanged
  split <;> simp

/-- A swap into a pool without shares pays nothing, so any amount that it takes in is lost. -/
theorem exchanged_owned_iff {token : Name} {amountIn slippageBps out : Int}
    {minimumOut : Option Int} (owned : p.Owned) (empty : p.lpSupply = 0)
    (sold : p.sale token amountIn minimumOut slippageBps = .ok out) :
    (p.exchanged token amountIn out).Owned ↔ p.exchanged token amountIn out = p := by
  obtain ⟨emptyA, emptyB⟩ := owned empty
  obtain ⟨_, earned, covered⟩ := quote_covered (of_sale_ok sold)
  have nothing : out = 0 := by
    split at covered <;> omega
  subst nothing
  refine ⟨fun kept => ?_, fun same => same.symm ▸ owned⟩
  have asked : amountIn = 0 := by
    unfold exchanged at kept
    split at kept <;> simpa [Owned, empty, emptyA, emptyB] using kept
  rw [asked, exchanged_nothing]

/-- A first deposit of a second amount that does not fit is broken off with the first one written,
    unless the first one does not fit either. -/
theorem credited_owned_iff {amountA : Int} {amountB : Option Int} {d : PoolStep.Deposit Int}
    (granted : p.Granted amountA amountB d) (empty : p.lpSupply = 0) :
    (p.credited amountA d).Owned ↔
      ¬(p.credited amountA d ≠ p ∧ ∃ b, amountB = some b ∧ u64Max < b) := by
  obtain ⟨emptyA, emptyB, minted, some_shares, given⟩ := granted.first empty
  by_cases fullA : u64Max < p.reserveA + amountA
  · rw [credited_of_fullA fullA]
    simp [granted.owned]
  have fitsA : p.reserveA + amountA ≤ u64Max := Int.not_lt.mp fullA
  by_cases fullB : u64Max < p.reserveB + d.amountB
  · have written := reserveA_credited (d := d) fitsA
    have unowned : ¬(p.credited amountA d).Owned := fun owned => by
      have kept := (owned ((lpSupply_credited_of_full (.inr (.inl fullB))).trans empty)).1
      omega
    have changed : p.credited amountA d ≠ p := fun same => unowned (same.symm ▸ granted.owned)
    refine iff_of_false unowned (not_not_intro ⟨changed, _, given, ?_⟩)
    omega
  · have fitsB : p.reserveB + d.amountB ≤ u64Max := Int.not_lt.mp fullB
    have supply := lpSupply_credited fitsA fitsB (d := d) (by omega)
    refine iff_of_true (fun none => by omega) ?_
    rintro ⟨_, b, same, large⟩
    obtain rfl := Option.some.inj (given.symm.trans same)
    omega

/-- Reserves without an owner are out of reach: no deposit mints shares of them, and no withdrawal
    pays them out. -/
theorem refused_of_unowned (unowned : ¬p.Owned) (name : Name) (amountA : Int)
    (amountB : Option Int) :
    (∃ f, (PoolStep.deposit name amountA amountB).result p = (.error f, p)) ∧
      ∃ f, (PoolStep.withdraw amountA).result p = (.error f, p) := by
  constructor
  · rw [PoolStep.result_deposit]
    cases granted : p.grant name amountA amountB with
    | error f => exact ⟨f, rfl⟩
    | ok d => exact absurd (of_grant_ok granted).owned unowned
  · rcases PoolStep.withdraw_outcome p amountA with refused | ⟨burned, outA, outB, paid, _⟩
    · exact refused
    · obtain ⟨_, _, ⟨divided, _⟩, _⟩ := ConstantProduct.lpBurn_eq paid
      exact absurd (fun empty => absurd empty (Checked.of_quotient_ok divided).1) unowned

/-- A later deposit is one of amounts that are not negative, and it takes no shares away. -/
theorem Granted.later_nonneg {amountA : Int} {amountB : Option Int} {d : PoolStep.Deposit Int}
    (granted : p.Granted amountA amountB d) (solvent : p.Solvent) (supply : p.lpSupply ≠ 0) :
    0 ≤ amountA ∧ 0 ≤ d.amountB ∧ 0 < (p.credited amountA d).lpSupply := by
  have earned := granted.later supply
  obtain ⟨⟨nonneg, _⟩, _⟩ := ConstantProduct.lpMint_eq earned
  obtain ⟨addedA, addedB, minted, _⟩ :=
    ConstantProduct.of_lpMint_ok solvent.reserveA solvent.reserveB earned
  refine ⟨addedA, addedB, ?_⟩
  by_cases full : u64Max < p.reserveA + amountA ∨ u64Max < p.reserveB + d.amountB ∨
      u64Max < p.lpSupply + d.minted
  · rw [lpSupply_credited_of_full full]
    omega
  · rw [lpSupply_credited (by omega) (by omega) (by omega)]
    omega

end Pool

namespace PoolCall

/-- A call does not ask for a negative amount. -/
def NonNegative : PoolCall → Prop
  | swap _ amountIn _ _ => 0 ≤ amountIn
  | deposit amountA amountB => 0 ≤ amountA ∧ ∀ b, amountB = some b → 0 ≤ b
  | withdraw amountA => 0 ≤ amountA

/-- A swap that changes a pool without shares, or a deposit that changes one though its second
    amount does not fit. -/
def LeavesUnowned (p q : Pool Int) : PoolCall → Prop
  | swap .. => p.lpSupply = 0 ∧ q ≠ p
  | deposit _ amountB => p.lpSupply = 0 ∧ q ≠ p ∧ ∃ b, amountB = some b ∧ u64Max < b
  | withdraw _ => False

theorem Leaves.owned_iff {p q : Pool Int} {call : PoolCall} (leaves : call.Leaves p q)
    (solvent : p.Solvent) (owned : p.Owned) : q.Owned ↔ ¬call.LeavesUnowned p q := by
  cases leaves with
  | unchanged => cases call <;> simp [LeavesUnowned, owned]
  | @sold token amountIn slippageBps out minimumOut sold =>
      by_cases empty : p.lpSupply = 0
      · simpa [LeavesUnowned, empty] using Pool.exchanged_owned_iff owned empty sold
      · have same := (Pool.exchanged_keeps solvent (Pool.of_sale_ok sold)).2.1
        simp [LeavesUnowned, Pool.Owned, same, empty]
  | @granted name amountA amountB d granted =>
      have granted := Pool.of_grant_ok granted
      by_cases empty : p.lpSupply = 0
      · simpa [LeavesUnowned, empty] using Pool.credited_owned_iff granted empty
      · obtain ⟨_, _, supply⟩ := granted.later_nonneg solvent empty
        simp [LeavesUnowned, Pool.Owned, empty, ne_of_gt supply]
  | paidOut paid => simp [LeavesUnowned, Pool.withdrawn_owned paid]

theorem Leaves.solvent {p q : Pool Int} {call : PoolCall} (leaves : call.Leaves p q)
    (asked : call.NonNegative) (solvent : p.Solvent) : q.Solvent := by
  cases leaves with
  | unchanged => exact solvent
  | sold sold => exact (Pool.exchanged_keeps solvent (Pool.of_sale_ok sold)).1
  | granted granted =>
      have granted := Pool.of_grant_ok granted
      by_cases empty : p.lpSupply = 0
      · obtain ⟨_, _, _, _, given⟩ := granted.first empty
        exact Pool.credited_solvent solvent asked.1 (asked.2 _ given)
      · obtain ⟨addedA, addedB, _⟩ := granted.later_nonneg solvent empty
        exact Pool.credited_solvent solvent addedA addedB
  | paidOut paid =>
      obtain ⟨supply, _⟩ := ConstantProduct.lpBurn_nonneg solvent.reserveA solvent.reserveB paid
      exact (Pool.withdrawn_keeps solvent supply paid).1

end PoolCall

/-- Every reserve that a pool reaches is owned, unless a call is let into the pool that leaves it
    without an owner. -/
theorem PoolHistory.stays_owned_iff {kind : VenueKind} {key : Key} {first last : Pool Int}
    {calls : List (PoolCall × Pool Int)} (history : PoolHistory kind key first calls last)
    (solvent : 0 ≤ first.reserveA ∧ 0 ≤ first.reserveB) (owned : first.Owned)
    (asked : ∀ reached ∈ calls, reached.1.NonNegative) :
    (∀ reached ∈ calls, reached.2.Owned) ↔
      Every (fun p call q => ¬call.LeavesUnowned p q) first calls := by
  refine history.kept_iff PoolCall.NonNegative Pool.Solvent ?_ asked ⟨solvent.1, solvent.2⟩ owned
  intro p call q asked solvent owned leaves
  exact ⟨leaves.solvent asked solvent, leaves.owned_iff solvent owned⟩

/-- A pool is opened, used in both directions and emptied to the last unit. -/
def emptyingCalls : List (PoolCall × Pool Int) :=
  [(.deposit 500 (some 700), pairPool 500 700 500),
    (.swap (.text "A") 100 none 100, pairPool 600 585 500),
    (.swap (.text "B") 50 none 100, pairPool 554 635 500),
    (.withdraw 554, pairPool 0 0 0)]

theorem PoolHistory.emptied_stays_owned :
    PoolHistory .raydium (.text "A-B") (pairPool 0 0 0) emptyingCalls (pairPool 0 0 0) ∧
      ∀ reached ∈ emptyingCalls, reached.2.Owned := by
  have history : PoolHistory .raydium (.text "A-B") (pairPool 0 0 0) emptyingCalls
      (pairPool 0 0 0) := by
    refine .cons (quietWorld _) (.text "A-B") _ rfl rfl (by rfl) ?_
    refine .cons (quietWorld _) (.text "A-B") _ rfl rfl (by rfl) ?_
    refine .cons (quietWorld _) (.text "A-B") _ rfl rfl (by rfl) ?_
    refine .cons (quietWorld _) (.text "A-B") _ rfl rfl (by rfl) ?_
    exact .nil _
  refine ⟨history, (history.stays_owned_iff ⟨by decide, by decide⟩ (fun _ => ⟨rfl, rfl⟩) ?_).mpr ?_⟩
  · simp [emptyingCalls, PoolCall.NonNegative]
  · simp [emptyingCalls, Every, PoolCall.LeavesUnowned, pairPool, u64Max]

/-- Both ways to take an empty pool for reserves that nobody owns. -/
theorem PoolHistory.empty_left_unowned :
    (pairPool 0 0 0).Owned ∧
    (PoolHistory .raydium (.text "A-B") (pairPool 0 0 0)
        [(.swap (.text "A") 100 none 100, pairPool 100 0 0)] (pairPool 100 0 0) ∧
      ¬(pairPool 100 0 0).Owned) ∧
    (PoolHistory .raydium (.text "A-B") (pairPool 0 0 0)
        [(.deposit 5 (some (u64Max + 1)), pairPool 5 0 0)] (pairPool 5 0 0) ∧
      ¬(pairPool 5 0 0).Owned) := by
  refine ⟨fun _ => ⟨rfl, rfl⟩, ⟨?_, ?_⟩, ?_, ?_⟩
  · exact .cons (quietWorld _) (.text "A-B") _ rfl rfl (by rfl) (.nil _)
  · exact fun owned => absurd (owned rfl).1 (by decide)
  · exact .cons (quietWorld _) (.text "A-B") _ rfl rfl (by rfl) (.nil _)
  · exact fun owned => absurd (owned rfl).1 (by decide)

end TradingEngine
