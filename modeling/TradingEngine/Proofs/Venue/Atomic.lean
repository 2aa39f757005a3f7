import TradingEngine.Proofs.Venue.ShareValue
import TradingEngine.Proofs.Wording

/-! # Deposits and withdrawals that fail

A withdrawal that fails has changed no pool. A deposit writes three fields one after the other, so
it has changed its pool if it fails once the first of them is written; if it fails before, it has
changed none.
-/

namespace TradingEngine

open Engine Quantity

namespace Pool

variable {p : Pool Int}

/-- A deposit is granted, and the pool has room for its first amount: then it is written, as far as
    it fits. -/
def Begins (p : Pool Int) (name : Name) (amountA : Int) (amountB : Option Int) : Prop :=
  ∃ d, p.grant name amountA amountB = .ok d ∧ p.reserveA + amountA ≤ u64Max

/-- What is written of a deposit is never nothing. -/
theorem credited_ne {amountA : Int} {amountB : Option Int} {d : PoolStep.Deposit Int}
    (granted : p.Granted amountA amountB d) (fitsA : p.reserveA + amountA ≤ u64Max) :
    p.credited amountA d ≠ p := by
  intro same
  have writtenA := reserveA_credited (d := d) fitsA
  rw [same] at writtenA
  have nothing : amountA = 0 := by omega
  subst nothing
  by_cases empty : p.lpSupply = 0
  · exact (granted.first empty).2.2.2.1 rfl
  · -- No shares are earned in the first reserve, so less than none would be in the second one.
    obtain ⟨⟨supply, _⟩, _, ⟨nonneg, _⟩, shareA, shareB, dividedA, dividedB, least, _⟩ :=
      ConstantProduct.lpMint_eq (granted.later empty)
    obtain ⟨nonzero, ofB⟩ := Checked.of_quotient_ok dividedB
    have none : shareA = 0 := by
      rw [(Checked.of_quotient_ok dividedA).2, Int.zero_mul, Int.zero_fdiv]
    have some_shares := granted.some_shares
    have short : p.reserveB < 0 := by
      by_contra covered
      have earned := Checked.quotient_nonneg dividedB (mul_nonneg nonneg supply) (by omega)
      omega
    have writtenB := reserveB_credited (d := d) fitsA (by simp only [u64Max] at *; omega)
    rw [same] at writtenB
    have free : d.amountB = 0 := by omega
    rw [free, Int.zero_mul, Int.zero_fdiv] at ofB
    omega

/-- What burned shares are paid is no larger than the reserve, on whichever side of zero it is. -/
theorem paid_isWritable {burned reserve supply out : Int} (nonneg : 0 ≤ burned)
    (owned : burned ≤ supply) (divided : Checked.quotient (burned * reserve) supply = .ok out)
    (fits : out ≤ u64Max) (writable : Numeral.isWritable reserve = true) :
    Numeral.isWritable out = true := by
  obtain ⟨nonzero, rounded⟩ := Checked.of_quotient_ok divided
  have positive : 0 < supply := by omega
  by_cases sign : 0 ≤ out
  · exact Numeral.isWritable_of_u64 sign fits
  have negative : reserve < 0 := by
    by_contra covered
    exact sign (Checked.quotient_nonneg divided (mul_nonneg nonneg (by omega)) positive)
  have part : reserve * supply ≤ burned * reserve := by
    rw [mul_comm burned]
    exact mul_le_mul_of_nonpos_left owned (le_of_lt negative)
  have above : reserve ≤ out := by
    rw [rounded, Int.fdiv_eq_ediv_of_nonneg _ (le_of_lt positive)]
    exact Int.le_ediv_of_mul_le positive part
  unfold Numeral.isWritable at *
  rw [decide_eq_true_eq] at *
  omega

/-- All that is shown of a withdrawal can be written. -/
theorem withdrawn_isWritable {burned outA outB : Int}
    (writable : Numeral.isWritable p.reserveA = true ∧ Numeral.isWritable p.reserveB = true)
    (paid : ConstantProduct.lpBurn burned p.reserveA p.reserveB p.lpSupply = .ok (outA, outB)) :
    Numeral.isWritable burned = true ∧ Numeral.isWritable outA = true ∧
      Numeral.isWritable outB = true := by
  obtain ⟨⟨nonneg, small⟩, owned, ⟨dividedA, fitsA⟩, dividedB, fitsB⟩ :=
    ConstantProduct.lpBurn_eq paid
  exact ⟨Numeral.isWritable_of_u64 nonneg small,
    paid_isWritable nonneg owned dividedA fitsA writable.1,
    paid_isWritable nonneg owned dividedB fitsB writable.2⟩

end Pool

namespace Trade

variable {w after : World Int} {kind : VenueKind} {key : Key} {name : Name} {p : Pool Int}
  {f : Fault}

/-- What has been paid out can be journalled. -/
theorem withdrawn_ok {burned outA outB : Int} (venue : VenueKind)
    (bound : name.isWritable = true ∧ Json.fieldsWritable w.journal.bound = true)
    (writable : Numeral.isWritable p.reserveA = true ∧ Numeral.isWritable p.reserveB = true)
    (paid : ConstantProduct.lpBurn burned p.reserveA p.reserveB p.lpSupply = .ok (outA, outB)) :
    ∃ after, (withdrawn venue name (toJson burned) (toJson outA) (toJson outB)).result w =
      (.ok (), after) := by
  have own : Json.fieldsWritable
      [("venue", .text venue.name), ("pool", name), ("burned", .int burned),
        ("amount_a", .int outA), ("amount_b", .int outB)] = true := by
    simp only [Json.fieldsWritable, Json.isWritable, Bool.and_self, bound.1,
      Pool.withdrawn_isWritable writable paid]
  obtain ⟨after, logged, _⟩ := log_ok .info "POOL_LIQUIDITY_REMOVED" (by decide) bound.2 own
  exact ⟨after, logged⟩

theorem withdraw_failed {amountA : Int} (named : Key.ofName name = .ok key)
    (held : w.pool? kind key = some p)
    (bound : name.isWritable = true ∧ Json.fieldsWritable w.journal.bound = true)
    (writable : Numeral.isWritable p.reserveA = true ∧ Numeral.isWritable p.reserveB = true)
    (failed : (withdraw kind name amountA).result w = (.error f, after)) : w.SamePools after := by
  obtain ⟨v, here, there⟩ := World.of_pool? held
  simp only [withdraw] at failed
  rw [result_bind, Registry.result_find, here] at failed
  dsimp only at failed
  rw [HaltSwitch.result_check_bind] at failed
  split at failed
  · cases failed
    exact .of_venues rfl
  rw [result_bind, result_onPool here named there] at failed
  rcases PoolStep.withdraw_outcome p amountA with ⟨g, done⟩ | ⟨burned, outA, outB, paid, done⟩
  · rw [done] at failed
    cases failed
    exact World.samePools_setPool held
  · rw [done] at failed
    dsimp only at failed
    rw [← (World.setPool_traded kind key _ w).bound] at bound
    obtain ⟨_, logged⟩ := withdrawn_ok v.kind bound writable paid
    rw [result_bind, logged] at failed
    cases failed

theorem deposit_failed_iff {amountA : Int} {amountB : Option Int}
    (named : Key.ofName name = .ok key) (held : w.pool? kind key = some p)
    (failed : (deposit kind name amountA amountB).result w = (.error f, after)) :
    w.SamePools after ↔ ¬(w.halt = none ∧ p.Begins name amountA amountB) := by
  have venues := venues_deposit named held amountA amountB
  rw [failed] at venues
  cases halted : w.halt with
  | some reason =>
      rw [halted, Option.isSome_some, if_pos rfl] at venues
      exact iff_of_true (.of_venues venues) (by simp)
  | none =>
      rw [halted, Option.isSome_none, if_neg Bool.false_ne_true, PoolStep.result_deposit] at venues
      cases granted : p.grant name amountA amountB with
      | error g =>
          rw [granted] at venues
          refine iff_of_true ((World.samePools_setPool held).trans (.of_venues venues)) ?_
          rintro ⟨_, d, given, _⟩
          cases granted.symm.trans given
      | ok d =>
          rw [granted] at venues
          dsimp only at venues
          by_cases fullA : u64Max < p.reserveA + amountA
          · rw [Pool.credited_of_fullA fullA] at venues
            refine iff_of_true ((World.samePools_setPool held).trans (.of_venues venues)) ?_
            rintro ⟨_, _, _, fitsA⟩
            omega
          · have fitsA : p.reserveA + amountA ≤ u64Max := Int.not_lt.mp fullA
            have changed := Pool.credited_ne (Pool.of_grant_ok granted) fitsA
            refine iff_of_false (fun same => changed ?_) (not_not_intro ⟨rfl, d, granted, fitsA⟩)
            have left := (World.pool?_of_venues venues).trans (World.pool?_setPool held)
            exact Option.some.inj (left.symm.trans ((same kind key).trans held))

/-- A withdrawal that fails leaves every pool as it was. A deposit that fails does so unless it was
    granted and its first amount fits: then it is its second amount or its shares that do not fit,
    or it could not be journalled, and what was written stays. -/
theorem failed_keeps_pools (named : Key.ofName name = .ok key) (held : w.pool? kind key = some p)
    (bound : name.isWritable = true ∧ Json.fieldsWritable w.journal.bound = true)
    (writable : Numeral.isWritable p.reserveA = true ∧ Numeral.isWritable p.reserveB = true) :
    (∀ amountA f after, (withdraw kind name amountA).result w = (.error f, after) →
      w.SamePools after) ∧
    ∀ amountA amountB f after, (deposit kind name amountA amountB).result w = (.error f, after) →
      (w.SamePools after ↔ ¬(w.halt = none ∧ p.Begins name amountA amountB)) :=
  ⟨fun _ _ _ => withdraw_failed named held bound writable,
    fun _ _ _ _ => deposit_failed_iff named held⟩

end Trade

/-- More shares than there are, and a deposit that would earn none. -/
theorem Trade.pairPool_refused_keeps :
    (quietWorld (pairPool 1000 4000 1000)).SamePools
      ((withdraw .raydium (.text "A-B") 5000).result
        (quietWorld (pairPool 1000 4000 1000))).2 ∧
    (quietWorld (pairPool 1000 4000 1000)).SamePools
      ((deposit .raydium (.text "A-B") 0 none).result
        (quietWorld (pairPool 1000 4000 1000))).2 := by
  have named : Key.ofName (.text "A-B") = .ok (.text "A-B") := rfl
  have held : (quietWorld (pairPool 1000 4000 1000)).pool? .raydium (.text "A-B") =
    some (pairPool 1000 4000 1000) := rfl
  obtain ⟨withdrawn, deposited⟩ := failed_keeps_pools named held ⟨rfl, rfl⟩
    ⟨Numeral.isWritable_of_u64 (by decide) (by decide),
      Numeral.isWritable_of_u64 (by decide) (by decide)⟩
  refine ⟨withdrawn 5000 _ _ rfl, (deposited 0 none _ _ rfl).mpr ?_⟩
  rintro ⟨_, d, granted, _⟩
  cases granted

/-- A deposit whose second amount does not fit, though the first one does. -/
theorem Trade.pairPool_torn :
    ((deposit .raydium (.text "A-B") 1000 (some 100)).result
        (quietWorld (pairPool 1000 (u64Max - 10) (2 ^ 63)))).1 =
      .error (.failure ⟨.resultTooLarge (.int (u64Max + 90)), none⟩) ∧
    ((deposit .raydium (.text "A-B") 1000 (some 100)).result
        (quietWorld (pairPool 1000 (u64Max - 10) (2 ^ 63)))).2.pool? .raydium (.text "A-B") =
      some (pairPool 2000 (u64Max - 10) (2 ^ 63)) :=
  ⟨by rfl, by rfl⟩

end TradingEngine
