import TradingEngine.Proofs.Rebalance.Plan
import TradingEngine.Proofs.Venue.Fills
import TradingEngine.Proofs.Venue.Repeat

/-! # Moves that are carried out

A move is a deposit into its pool or a withdrawal from it. A deposit is filled with what was asked
for. A withdrawal is turned into shares and back, rounded down both times, and so it is filled with
no more than that. The reserve of a pool is then what it was, with all that was put in and less all
that was taken out, and no other pool is touched.
-/

namespace TradingEngine

open Engine Quantity

namespace Pool

/-- Whether a pool whose shares are in somebody's hands has no debts. -/
def Backed (p : Pool Int) : Prop := 0 < p.lpSupply → 0 ≤ p.reserveA

/-- No more is paid than was asked for or is there. -/
theorem redeemed_le {p : Pool Int} {amountA burned outA outB : Int} (backed : p.Backed)
    (redeems : ConstantProduct.Redeems amountA p.reserveA p.reserveB p.lpSupply burned outA outB) :
    outA ≤ amountA ∧ outA ≤ p.reserveA := by
  obtain ⟨⟨nonneg, _⟩, owned, ⟨divided, _⟩, _⟩ := ConstantProduct.lpBurn_eq redeems.paid
  have supply : 0 < p.lpSupply := by
    have nonzero := (Checked.of_quotient_ok divided).1
    omega
  have reserve : 0 < p.reserveA := by
    have nonzero := (Checked.of_quotient_ok redeems.worth).1
    have above := backed supply
    omega
  refine ⟨redeems.outA_le reserve supply, ConstantProduct.paid_le_of_worth supply divided ?_⟩
  rw [Int.mul_comm p.reserveA]
  exact Int.mul_le_mul_of_nonneg_right owned (Int.le_of_lt reserve)

end Pool

theorem Registry.of_require_ok {ν : Type} {kind : VenueKind} {w after : World ν} {u : Unit}
    (ended : (require kind).result w = (.ok u, after)) : after = w := by
  obtain ⟨venue, _, found, ended⟩ := of_bind_ok ended
  cases ended
  rw [result_find] at found
  split at found
  · exact (Prod.mk.inj found).2.symm
  · cases found

theorem World.AllPaper.setPool {ν : Type} {w : World ν} (paper : w.AllPaper) (kind : VenueKind)
    (key : Key) (p : Pool ν) : (w.setPool kind key p).AllPaper := by
  unfold World.setPool
  split
  · exact Registry.store_keepsPaper kind _ w paper
  · exact paper

namespace Rebalance

/-! ### One move -/

/-- What a move does to its pool when this much of it is filled. -/
structure Fills (m : LiquidityMove) (amount : Int) (p q : Pool Int) : Prop where
  /-- What was filled is on the books of the pool. -/
  books : q.reserveA = p.reserveA + { m with amount }.signed
  exact : m.direction = .add → amount = m.amount
  atMost : m.direction = .remove → amount ≤ m.amount
  backed : q.Backed

section

variable {m : LiquidityMove} {amount : Int} {w after : World Int}

theorem fills_add {p q : Pool Int} {d : PoolStep.Deposit Int} {name : Name}
    (direction : m.direction = .add) (backed : p.Backed)
    (done : (PoolStep.deposit name m.amount none).result p = (.ok d, q)) :
    Fills m m.amount p q := by
  obtain ⟨granted, _, rfl⟩ := PoolStep.of_deposit_ok done
  obtain ⟨some, nonneg, more⟩ := granted.joins
  refine ⟨?_, fun _ => rfl, fun _ => Int.le_refl _, fun _ => ?_⟩
  · rw [LiquidityMove.signed, direction]
  · have held := backed (by omega)
    dsimp only
    omega

theorem fills_remove {p q : Pool Int} {d : PoolStep.Withdrawal Int}
    (direction : m.direction = .remove) (backed : p.Backed)
    (done : (PoolStep.withdraw m.amount).result p = (.ok d, q)) : Fills m d.outA p q := by
  obtain ⟨redeems, rfl⟩ := PoolStep.of_withdraw_ok done
  obtain ⟨asked, there⟩ := Pool.redeemed_le backed redeems
  refine ⟨?_, fun adds => ?_, fun _ => asked, fun _ => Int.sub_nonneg.mpr there⟩
  · rw [LiquidityMove.signed, direction]
    exact Int.sub_eq_add_neg
  · rw [direction] at adds
    cases adds

/-- A move that is carried out fills at its pool and does nothing else but take notes. -/
theorem of_applyMove_ok (paper : w.AllPaper)
    (backed : ∀ kind key p, w.pool? kind key = some p → p.Backed)
    (ended : (applyMove m).result w = (.ok amount, after)) :
    ∃ p q, w.pool? m.venue (.text m.pool) = some p ∧ Fills m amount p q ∧
      (w.setPool m.venue (.text m.pool) q).Noted after := by
  obtain ⟨_, between, required, moved⟩ := of_bind_ok (HaltSwitch.of_check_ok ended).2
  cases Registry.of_require_ok required
  cases direction : m.direction with
  | add =>
      rw [direction] at moved
      obtain ⟨_, _, deposited, ended⟩ := of_bind_ok moved
      obtain ⟨_, _, given, ended⟩ := of_bind_ok ended
      cases given
      obtain ⟨_, _, journalled, ended⟩ := of_bind_ok ended
      cases ended
      obtain ⟨v, here, _⟩ := Registry.of_find_ok paper deposited
      obtain ⟨_, key, p, q, d, named, held, taken, _, noted⟩ := Trade.of_deposit_ok here deposited
      cases named
      exact ⟨p, q, held, fills_add direction (backed _ _ p held) taken,
        Frame.trans noted ((log_noted _ _ _ (by decide)).of_ended journalled)⟩
  | remove =>
      rw [direction] at moved
      obtain ⟨_, _, withdrawn, ended⟩ := of_bind_ok moved
      obtain ⟨_, _, given, ended⟩ := of_bind_ok ended
      cases given
      obtain ⟨_, _, journalled, ended⟩ := of_bind_ok ended
      cases ended
      obtain ⟨v, here, _⟩ := Registry.of_find_ok paper withdrawn
      obtain ⟨key, p, q, d, named, held, taken, rfl, noted⟩ := Trade.of_withdraw_ok here withdrawn
      cases named
      exact ⟨p, q, held, fills_remove direction (backed _ _ p held) taken,
        Frame.trans noted ((log_noted _ _ _ (by decide)).of_ended journalled)⟩

/-- What one move leaves of all pools. -/
theorem applyMove_keeps_books (paper : w.AllPaper)
    (backed : ∀ kind key p, w.pool? kind key = some p → p.Backed)
    (ended : (applyMove m).result w = (.ok amount, after)) :
    after.AllPaper ∧ (∀ kind key p, after.pool? kind key = some p → p.Backed) ∧
    (m.direction = .add → amount = m.amount) ∧ (m.direction = .remove → amount ≤ m.amount) ∧
    (∀ kind key p, w.pool? kind key = some p → ∃ q, after.pool? kind key = some q ∧
      q.reserveA = p.reserveA +
        if m.holder = (kind, some key) then { m with amount }.signed else 0) ∧
    ∀ kind key, m.holder ≠ (kind, some key) → after.pool? kind key = w.pool? kind key := by
  obtain ⟨p, q, held, fills, noted⟩ := of_applyMove_ok paper backed ended
  have here : after.pool? m.venue (.text m.pool) = some q :=
    (World.pool?_of_venues noted.venues).trans (World.pool?_setPool held)
  have elsewhere (kind : VenueKind) (key : Key) (other : m.holder ≠ (kind, some key)) :
      after.pool? kind key = w.pool? kind key := by
    rw [World.pool?_of_venues noted.venues]
    refine World.pool?_setPool_of_ne ?_
    by_contra same
    rw [not_or, not_not, not_not] at same
    obtain ⟨rfl, rfl⟩ := same
    exact other rfl
  refine ⟨(paper.setPool _ _ _).of_venues noted.venues, fun kind key r found => ?_, fills.exact,
    fills.atMost, fun kind key r there => ?_, elsewhere⟩
  · by_cases same : m.holder = (kind, some key)
    · cases same
      cases here.symm.trans found
      exact fills.backed
    · exact backed kind key r ((elsewhere kind key same).symm.trans found)
  · by_cases same : m.holder = (kind, some key)
    · obtain ⟨rfl, rfl⟩ : m.venue = kind ∧ .text m.pool = key := by
        simpa [LiquidityMove.holder] using same
      cases held.symm.trans there
      rw [if_pos same]
      exact ⟨q, here, fills.books⟩
    · exact ⟨r, (elsewhere kind key same).trans there, by rw [if_neg same, Int.add_zero]⟩

end

/-! ### All moves -/

/-- How much of the moves of one direction was filled for a holder. -/
def filledAt (holder : Holder) (direction : MoveDirection)
    (filled : List (LiquidityMove × Int)) : Int :=
  ((filled.filter fun done => done.1.holder = holder ∧ done.1.direction = direction).map (·.2)).sum

theorem filledAt_cons (holder : Holder) (direction : MoveDirection)
    (done : LiquidityMove × Int) (filled : List (LiquidityMove × Int)) :
    filledAt holder direction (done :: filled) =
      (if done.1.holder = holder ∧ done.1.direction = direction then done.2 else 0) +
        filledAt holder direction filled := by
  unfold filledAt
  rw [List.filter_cons]
  by_cases counted : done.1.holder = holder ∧ done.1.direction = direction
  · simp [counted]
  · simp [counted]

/-- The moves are filled in their order, a deposit with what was asked for and a withdrawal with no
    more than that. The reserve of every pool is what it was with the deposits into it and less the
    withdrawals from it, and a pool that no move names is as it was. -/
theorem apply_keeps_books (moves : List LiquidityMove) {filled : List (LiquidityMove × Int)}
    {w after : World Int} (paper : w.AllPaper)
    (backed : ∀ kind key p, w.pool? kind key = some p → p.Backed)
    (ended : (apply moves).result w = (.ok filled, after)) :
    filled.map (·.1) = moves ∧
    (∀ done ∈ filled,
      (done.1.direction = .add → done.2 = done.1.amount) ∧
      (done.1.direction = .remove → done.2 ≤ done.1.amount)) ∧
    (∀ kind key p, w.pool? kind key = some p → ∃ q, after.pool? kind key = some q ∧
      q.reserveA = p.reserveA + filledAt (kind, some key) .add filled -
        filledAt (kind, some key) .remove filled) ∧
    ∀ kind key, (∀ m ∈ moves, m.holder ≠ (kind, some key)) →
      after.pool? kind key = w.pool? kind key := by
  induction moves generalizing w filled with
  | nil =>
      cases ended
      refine ⟨rfl, List.forall_mem_nil _, fun kind key p held => ⟨p, held, ?_⟩, fun _ _ _ => rfl⟩
      simp [filledAt]
  | cons m ms ih =>
      rw [apply, List.mapM_cons] at ended
      obtain ⟨done, between, first, ended⟩ := of_bind_ok ended
      obtain ⟨later, _, rest, ended⟩ := of_bind_ok ended
      cases ended
      obtain ⟨amount, _, moved, first⟩ := of_bind_ok first
      cases first
      -- The pools are as sound as before for the rest of the moves, and the amounts add up.
      obtain ⟨paperNow, backedNow, exact, atMost, books, elsewhere⟩ :=
        applyMove_keeps_books paper backed moved
      obtain ⟨order, limits, booksLater, elsewhereLater⟩ := ih paperNow backedNow rest
      refine ⟨congrArg (m :: ·) order, List.forall_mem_cons.mpr ⟨⟨exact, atMost⟩, limits⟩,
        fun kind key p held => ?_, fun kind key unnamed => ?_⟩
      · obtain ⟨q, midway, changed⟩ := books kind key p held
        obtain ⟨last, there, changedLater⟩ := booksLater kind key q midway
        refine ⟨last, there, ?_⟩
        rw [changedLater, changed, filledAt_cons, filledAt_cons]
        by_cases same : m.holder = (kind, some key)
        · cases direction : m.direction <;> simp [same, LiquidityMove.signed] <;> omega
        · simp [same]
      · obtain ⟨here, others⟩ := List.forall_mem_cons.mp unnamed
        exact (elsewhereLater kind key others).trans (elsewhere kind key here)

/-- A world that journals in silence, with two pools. -/
def twoPools : World Int :=
  { settings := .standard
    journal := { threshold := 60 }
    venues := [(.raydium, .paper { kind := .raydium
                                   pools := [(.text "A-B", pairPool 1000 4000 300),
                                     (.text "C-D", pairPool 50 50 50)] })] }

/-- Moves that all hit the same pool. -/
def pairMoves : List LiquidityMove :=
  [⟨.raydium, "A-B", 7, .remove⟩, ⟨.raydium, "A-B", 20, .add⟩, ⟨.raydium, "A-B", 100, .remove⟩]

/-- Whether moves were carried out and filled like this. -/
def filledAs (expected : List (LiquidityMove × Int)) :
    Except Fault (List (LiquidityMove × Int)) → Bool
  | .ok filled => filled = expected
  | .error _ => false

theorem of_filledAs {expected : List (LiquidityMove × Int)}
    {ended : Except Fault (List (LiquidityMove × Int))} (h : filledAs expected ended = true) :
    ended = .ok expected := by
  unfold filledAs at h
  split at h
  · rw [of_decide_eq_true h]
  · cases h

/-- The withdrawals are filled with 6 and 97, and the reserve comes to 1000 and 20 less 103. -/
theorem pairMoves_keep_books :
    ∃ filled after, (apply pairMoves).result twoPools = (.ok filled, after) ∧
      filled.map (·.1) = pairMoves ∧ filled.map (·.2) = [6, 20, 97] ∧
      (∃ q, after.pool? .raydium (.text "A-B") = some q ∧ q.reserveA = 917) ∧
      after.pool? .raydium (.text "C-D") = some (pairPool 50 50 50) := by
  have paper : twoPools.AllPaper := by
    intro kind venue found
    cases kind <;> cases found
    exact ⟨_, rfl⟩
  have backed : ∀ kind key p, twoPools.pool? kind key = some p → p.Backed := by
    intro kind key p held _
    obtain ⟨v, found, held⟩ := World.of_pool? held
    cases kind <;> cases found
    rcases List.mem_cons.mp (Table.mem_of_get? held) with same | same
    · cases same
      decide
    · cases List.mem_singleton.mp same
      decide
  have filled : filledAs (pairMoves.zip [6, 20, 97]) ((apply pairMoves).result twoPools).1 =
      true := by decide +kernel
  cases ended : (apply pairMoves).result twoPools with
  | mk r after =>
      rw [ended] at filled
      cases of_filledAs filled
      obtain ⟨order, -, books, elsewhere⟩ := apply_keeps_books pairMoves paper backed ended
      obtain ⟨q, there, reserve⟩ := books .raydium (.text "A-B") (pairPool 1000 4000 300) rfl
      have amount : q.reserveA = 917 := by
        rw [reserve]
        decide
      exact ⟨_, after, rfl, order, by decide, ⟨q, there, amount⟩,
        elsewhere .raydium (.text "C-D") (by decide)⟩

end Rebalance

end TradingEngine
