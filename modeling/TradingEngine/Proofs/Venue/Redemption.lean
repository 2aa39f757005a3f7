import TradingEngine.Proofs.Venue.Fills

/-! # Getting out of a pool

Any amount up to the whole first reserve can be withdrawn. It is paid no more than it asks for and
less than a share's worth and one unit below that, with no more of the second reserve than goes with
it; the whole reserve empties the pool, and so does what is asked for beyond it by less than a
share's worth. Who has put in an amount with its proportional counterpart can always withdraw it
again, and is paid no more than was put in, of either token.
-/

namespace TradingEngine

open Engine ConstantProduct

namespace Pool

variable {p q : Pool Int} {amountA burned outA outB : Int}

theorem InRange.legible (range : p.InRange) : p.Legible :=
  ⟨Numeral.isWritable_of_u64 range.reserveA.1 range.reserveA.2,
    Numeral.isWritable_of_u64 range.reserveB.1 range.reserveB.2⟩

/-- What a withdrawal of an amount has paid, and what it has left. -/
structure Redeemed (p : Pool Int) (amountA outA outB : Int) (q : Pool Int) : Prop where
  atMost : outA ≤ amountA
  /-- The shortfall is less than one share is worth and one unit. -/
  atLeast : (amountA - outA - 1) * p.lpSupply < p.reserveA
  inProportion : outB * p.reserveA ≤ amountA * p.reserveB
  reserveA : q.reserveA = p.reserveA - outA
  reserveB : q.reserveB = p.reserveB - outB
  inRange : q.InRange
  /-- Nothing is left of the pool for who asks for all of it or more. -/
  emptied : p.reserveA ≤ amountA → q.reserveA = 0 ∧ q.reserveB = 0 ∧ q.lpSupply = 0

theorem redeemed_of_filled {d : PoolStep.Withdrawal Int} (range : p.InRange)
    (reserve : 0 < p.reserveA) (supply : 0 < p.lpSupply)
    (filled : (PoolStep.withdraw amountA).result p = (.ok d, q)) :
    p.Redeemed amountA d.outA d.outB q := by
  obtain ⟨redeems, rfl⟩ := PoolStep.of_withdraw_ok filled
  refine ⟨redeems.outA_le reserve supply, redeems.shortfall_lt reserve supply,
    redeems.outB_mul_le reserve supply range.reserveB.1, rfl, rfl,
    withdrawn_inRange range redeems.paid, fun whole => ?_⟩
  obtain ⟨burned, paidA, paidB⟩ := redeems.all_paid reserve supply whole
  rw [burned, paidA, paidB]
  exact ⟨Int.sub_self _, Int.sub_self _, Int.sub_self _⟩

/-- A deposit fills only where the first reserve is not empty, and then keeps the pool in range. -/
theorem of_deposited {name : Name} {d : PoolStep.Deposit Int} (range : p.InRange)
    (filled : (PoolStep.deposit name amountA none).result p = (.ok d, q)) :
    0 ≤ amountA ∧ 0 < p.reserveA ∧ 0 ≤ d.amountB ∧ q.InRange ∧ 0 < q.lpSupply := by
  obtain ⟨granted, room, rfl⟩ := PoolStep.of_deposit_ok filled
  obtain ⟨some, _, asked⟩ := granted.joins
  have supply : 0 < p.lpSupply := lt_of_le_of_ne range.lpSupply.1 (Ne.symm some)
  obtain ⟨_, nonneg, minted, _⟩ := of_minted range.solvent supply granted.minted
  have reserve : 0 < p.reserveA :=
    lt_of_le_of_ne range.reserveA.1 (Ne.symm (Checked.of_quotient_ok granted.proportional).1)
  have inRange := credited_inRange range asked nonneg minted
  rw [room.credited] at inRange
  exact ⟨asked, reserve, nonneg, inRange, by dsimp only; omega⟩

end Pool

namespace Trade

variable {kind : VenueKind} {key : Key} {name : Name} {w between : World Int} {p : Pool Int}

/-- A withdrawal that asks for less than a share's worth beyond the reserve is paid. -/
theorem withdraw_redeems {amountA : Int} (named : Key.ofName name = .ok key)
    (held : w.pool? kind key = some p) (running : w.halt = none)
    (bound : name.isWritable = true ∧ Json.fieldsWritable w.journal.bound = true)
    (range : p.InRange) (reserve : 0 < p.reserveA) (supply : 0 < p.lpSupply) (asked : 0 ≤ amountA)
    (within : (amountA - p.reserveA) * p.lpSupply < p.reserveA) :
    ∃ outA outB after q, (withdraw kind name amountA).result w = (.ok (outA, outB), after) ∧
      after.pool? kind key = some q ∧ p.Redeemed amountA outA outB q := by
  obtain ⟨d, q, filled⟩ :=
    (PoolStep.withdraw_fills_iff range reserve supply asked).mpr within
  obtain ⟨after, paid, noted⟩ := withdraw_ok named held running bound range.legible filled
  exact ⟨d.outA, d.outB, after, q, paid,
    (World.pool?_of_venues noted.venues).trans (World.pool?_setPool held),
    Pool.redeemed_of_filled range reserve supply filled⟩

/-- Any amount up to the whole reserve can be withdrawn, and is redeemed for it with both roundings
    down. Beyond the reserve all of the pool is paid out where less than a share's worth is asked
    for too much, and the withdrawal is refused where more is. -/
theorem withdrawal_redeems_or_refuses (named : Key.ofName name = .ok key)
    (held : w.pool? kind key = some p) (running : w.halt = none)
    (bound : name.isWritable = true ∧ Json.fieldsWritable w.journal.bound = true)
    (range : p.InRange) (reserve : 0 < p.reserveA) (supply : 0 < p.lpSupply) :
    (∀ amountA, 0 ≤ amountA → amountA ≤ p.reserveA → ∃ outA outB after q,
      (withdraw kind name amountA).result w = (.ok (outA, outB), after) ∧
        after.pool? kind key = some q ∧ p.Redeemed amountA outA outB q) ∧
    ∀ amountA, p.reserveA < amountA →
      (∃ after q, (withdraw kind name amountA).result w = (.ok (p.reserveA, p.reserveB), after) ∧
        after.pool? kind key = some q ∧ q.reserveA = 0 ∧ q.reserveB = 0 ∧ q.lpSupply = 0) ∧
          (amountA - p.reserveA) * p.lpSupply < p.reserveA ∨
      (∃ f after, (withdraw kind name amountA).result w = (.error f, after) ∧
        w.SamePools after) ∧ p.reserveA ≤ (amountA - p.reserveA) * p.lpSupply := by
  refine ⟨fun amountA asked whole => ?_, fun amountA beyond => ?_⟩
  · refine withdraw_redeems named held running bound range reserve supply asked ?_
    have none := mul_nonpos_of_nonpos_of_nonneg (sub_nonpos.mpr whole) (le_of_lt supply)
    omega
  by_cases within : (amountA - p.reserveA) * p.lpSupply < p.reserveA
  · obtain ⟨outA, outB, after, q, paid, left, redeemed⟩ :=
      withdraw_redeems named held running bound range reserve supply (by omega) within
    obtain ⟨emptyA, emptyB, empty⟩ := redeemed.emptied (le_of_lt beyond)
    obtain rfl : outA = p.reserveA := by
      have less := redeemed.reserveA
      omega
    obtain rfl : outB = p.reserveB := by
      have less := redeemed.reserveB
      omega
    exact .inl ⟨⟨after, q, paid, left, emptyA, emptyB, empty⟩, within⟩
  · refine .inr ⟨?_, Int.not_lt.mp within⟩
    have unfilled := mt (PoolStep.withdraw_fills_iff range reserve supply (by omega)).mp within
    cases taken : (PoolStep.withdraw amountA).result p with
    | mk r q =>
        cases r with
        | ok d => exact absurd ⟨d, q, taken⟩ unfilled
        | error f =>
            obtain ⟨after, failed⟩ := withdraw_error named held running taken
            exact ⟨f, after, failed, withdraw_failed named held bound
              ⟨range.legible.reserveA, range.legible.reserveB⟩ failed⟩

/-- A share of this pool is worth a little over three units: asked for seven, it pays the six that
    two shares are worth. Asked for one unit more than it has it pays all it has, and for four units
    more nothing. -/
theorem pairPool_redeems_or_refuses :
    (∃ outA outB after q, (withdraw .raydium (.text "A-B") 7).result
        (quietWorld (pairPool 1000 4000 300)) = (.ok (outA, outB), after) ∧
      after.pool? .raydium (.text "A-B") = some q ∧
      (pairPool 1000 4000 300).Redeemed 7 outA outB q) ∧
    (∃ after q, (withdraw .raydium (.text "A-B") 1001).result
        (quietWorld (pairPool 1000 4000 300)) = (.ok (1000, 4000), after) ∧
      after.pool? .raydium (.text "A-B") = some q ∧
      q.reserveA = 0 ∧ q.reserveB = 0 ∧ q.lpSupply = 0) ∧
    ∃ f after, (withdraw .raydium (.text "A-B") 1004).result
        (quietWorld (pairPool 1000 4000 300)) = (.error f, after) ∧
      (quietWorld (pairPool 1000 4000 300)).SamePools after := by
  have named : Key.ofName (.text "A-B") = .ok (.text "A-B") := rfl
  have held : (quietWorld (pairPool 1000 4000 300)).pool? .raydium (.text "A-B") =
    some (pairPool 1000 4000 300) := rfl
  obtain ⟨redeemed, beyond⟩ := withdrawal_redeems_or_refuses named held rfl ⟨rfl, rfl⟩
    ⟨by decide, by decide, by decide⟩ (by decide) (by decide)
  refine ⟨redeemed 7 (by decide) (by decide), ?_, ?_⟩
  · obtain ⟨paid, _⟩ | ⟨_, much⟩ := beyond 1001 (by decide)
    · exact paid
    · exact absurd much (by decide)
  · obtain ⟨_, little⟩ | ⟨refused, _⟩ := beyond 1004 (by decide)
    · exact absurd little (by decide)
    · exact refused

/-- Who has deposited an amount with its proportional counterpart can withdraw it again, and is paid
    no more of either token than was put in. -/
theorem proportional_round_trip {amountA minted : Int} (named : Key.ofName name = .ok key)
    (held : w.pool? kind key = some p)
    (bound : name.isWritable = true ∧ Json.fieldsWritable w.journal.bound = true)
    (range : p.InRange)
    (deposited : (deposit kind name amountA none).result w = (.ok minted, between)) :
    ∃ amountB, amountB = amountA * p.reserveB / p.reserveA ∧
      between.pool? kind key = some { p with
        reserveA := p.reserveA + amountA, reserveB := p.reserveB + amountB
        lpSupply := p.lpSupply + minted } ∧
      ∃ outA outB after q,
        (withdraw kind name amountA).result between = (.ok (outA, outB), after) ∧
        outA ≤ amountA ∧ outB ≤ amountB ∧
        after.pool? kind key = some q ∧ p.reserveA ≤ q.reserveA ∧ p.reserveB ≤ q.reserveB := by
  obtain ⟨v, here, _⟩ := World.of_pool? held
  obtain ⟨running, other, r, q, d, found, there, filled, rfl, noted⟩ := of_deposit_ok here deposited
  cases named.symm.trans found
  cases held.symm.trans there
  obtain ⟨asked, reserve, nonneg, inRange, supply⟩ := Pool.of_deposited range filled
  obtain ⟨granted, _, rfl⟩ := PoolStep.of_deposit_ok filled
  have left := (World.pool?_of_venues noted.venues).trans (World.pool?_setPool held)
  have frame := Frame.trans (World.setPool_traded kind key _ w) noted.toTraded
  rw [← frame.bound] at bound
  rw [← frame.halt] at running
  have within : (amountA - (p.reserveA + amountA)) * (p.lpSupply + d.minted) <
      p.reserveA + amountA := by
    have none : (amountA - (p.reserveA + amountA)) * (p.lpSupply + d.minted) ≤ 0 :=
      mul_nonpos_of_nonpos_of_nonneg (by omega) (le_of_lt supply)
    omega
  obtain ⟨outA, outB, after, q, paid, rest, redeemed⟩ := withdraw_redeems named left running bound
    inRange (by dsimp only; omega) supply asked within
  have atMostB := le_proportional asked reserve granted.proportional redeemed.inProportion
  refine ⟨d.amountB, ?_, left, outA, outB, after, q, paid, redeemed.atMost, atMostB, rest, ?_, ?_⟩
  · rw [(Checked.of_quotient_ok granted.proportional).2]
    exact Int.fdiv_eq_ediv_of_nonneg _ (le_of_lt reserve)
  · have atMostA := redeemed.atMost
    rw [redeemed.reserveA]
    dsimp only
    omega
  · rw [redeemed.reserveB]
    dsimp only
    omega

/-- The withdrawal burns more shares here than the deposit has minted, and is still paid less. -/
theorem pairPool_round_trip :
    ∃ between, (deposit .raydium (.text "A-B") 150 none).result
        (quietWorld (pairPool 1000 10 1000)) = (.ok 100, between) ∧
      between.pool? .raydium (.text "A-B") = some (pairPool 1150 11 1100) ∧
      ∃ outA outB after q, (withdraw .raydium (.text "A-B") 150).result between =
          (.ok (outA, outB), after) ∧
        outA ≤ 150 ∧ outB ≤ 1 ∧ after.pool? .raydium (.text "A-B") = some q ∧
        1000 ≤ q.reserveA ∧ 10 ≤ q.reserveB := by
  have named : Key.ofName (.text "A-B") = .ok (.text "A-B") := rfl
  have held : (quietWorld (pairPool 1000 10 1000)).pool? .raydium (.text "A-B") =
    some (pairPool 1000 10 1000) := rfl
  obtain ⟨between, deposited⟩ : ∃ between, (deposit .raydium (.text "A-B") 150 none).result
      (quietWorld (pairPool 1000 10 1000)) = (.ok 100, between) := ⟨_, rfl⟩
  obtain ⟨amountB, rfl, left, withdrawn⟩ := proportional_round_trip named held ⟨rfl, rfl⟩
    ⟨by decide, by decide, by decide⟩ deposited
  exact ⟨between, deposited, left, withdrawn⟩

end Trade

end TradingEngine
