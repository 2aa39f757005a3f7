import TradingEngine.Proofs.Shares
import TradingEngine.Proofs.Venue.Legible
import TradingEngine.Proofs.Venue.Range

/-! # Deposits and withdrawals that fill

What a deposit or a withdrawal that fills has found and left, of its pool and of the world. A
withdrawal fills just where what it asks for beyond the first reserve is worth less than a share; on
a venue it is then paid unless trading is halted.
-/

namespace TradingEngine

open Engine Quantity ConstantProduct

namespace Pool

variable {p : Pool Int} {amountA : Int} {d : PoolStep.Deposit Int}

/-- A deposit has room if both reserves and the supply stay amounts of 64 bits. -/
structure HasRoom (p : Pool Int) (amountA : Int) (d : PoolStep.Deposit Int) : Prop where
  reserveA : p.reserveA + amountA ≤ u64Max
  reserveB : p.reserveB + d.amountB ≤ u64Max
  lpSupply : p.lpSupply + d.minted ≤ u64Max

theorem hasRoom_of_room {given : PoolStep.Deposit Int} (h : p.room amountA given = .ok d) :
    p.HasRoom amountA given := by
  obtain ⟨_, fitsA, h⟩ := Except.of_bind_ok h
  obtain ⟨_, fitsB, h⟩ := Except.of_bind_ok h
  obtain ⟨_, fits, _⟩ := Except.of_bind_ok h
  exact ⟨(Checked.of_toU64_ok fitsA).2, (Checked.of_toU64_ok fitsB).2, (Checked.of_toU64_ok fits).2⟩

theorem HasRoom.credited (room : p.HasRoom amountA d) :
    p.credited amountA d =
      { p with
        reserveA := p.reserveA + amountA, reserveB := p.reserveB + d.amountB
        lpSupply := p.lpSupply + d.minted } := by
  rw [Pool.credited, if_neg (Int.not_lt.mpr room.reserveA), if_neg (Int.not_lt.mpr room.reserveB),
    if_neg (Int.not_lt.mpr room.lpSupply)]

/-- A deposit that names only the first amount joins shares that are there and takes nothing out. -/
theorem Granted.joins (granted : p.Granted amountA none d) :
    p.lpSupply ≠ 0 ∧ 0 ≤ p.lpSupply ∧ 0 ≤ amountA := by
  have some : p.lpSupply ≠ 0 := by
    intro empty
    cases (granted.first empty).2.2.2.2
  obtain ⟨⟨supply, _⟩, ⟨amount, _⟩, _⟩ := lpMint_eq (granted.later some)
  exact ⟨some, supply, amount⟩

/-- An omitted second amount is the proportional one. -/
theorem Granted.proportional (granted : p.Granted amountA none d) :
    Checked.quotient (amountA * p.reserveB) p.reserveA = .ok d.amountB := by
  rcases granted.second with given | ⟨_, priced⟩
  · cases given
  · obtain ⟨product, multiplied, divided⟩ := Except.of_bind_ok priced
    rwa [Checked.of_product_ok multiplied] at divided

end Pool

namespace PoolStep

variable {p q : Pool Int} {amountA : Int}

theorem of_deposit_ok {name : Name} {amountB : Option Int} {d : Deposit Int}
    (h : (deposit name amountA amountB).result p = (.ok d, q)) :
    p.Granted amountA amountB d ∧ p.HasRoom amountA d ∧
      q = { p with
        reserveA := p.reserveA + amountA, reserveB := p.reserveB + d.amountB
        lpSupply := p.lpSupply + d.minted } := by
  rw [result_deposit] at h
  cases granted : p.grant name amountA amountB with
  | error f =>
      rw [granted] at h
      cases h
  | ok given =>
      rw [granted] at h
      obtain ⟨room, rfl⟩ := Prod.mk.inj h
      cases Pool.of_room_ok room
      have room := Pool.hasRoom_of_room room
      exact ⟨Pool.of_grant_ok granted, room, room.credited⟩

/-- What the pool pays for an amount is what redeeming it pays. -/
theorem of_withdraw_ok {d : Withdrawal Int} (h : (withdraw amountA).result p = (.ok d, q)) :
    Redeems amountA p.reserveA p.reserveB p.lpSupply d.burned d.outA d.outB ∧
      q = { p with
        reserveA := p.reserveA - d.outA, reserveB := p.reserveB - d.outB
        lpSupply := p.lpSupply - d.burned } := by
  simp only [withdraw, result_bind, result_get, result_ofExcept] at h
  cases worth : p.sharesWorth amountA with
  | error f =>
      rw [worth] at h
      cases h
  | ok burned =>
      rw [worth] at h
      dsimp only at h
      cases paid : lpBurn burned p.reserveA p.reserveB p.lpSupply with
      | error f =>
          rw [paid] at h
          cases h
      | ok outs =>
          rw [paid] at h
          cases h
          obtain ⟨product, multiplied, worth⟩ := Except.of_bind_ok worth
          rw [Checked.of_product_ok multiplied] at worth
          exact ⟨⟨worth, paid⟩, rfl⟩

theorem withdraw_ok {burned outA outB : Int} (worth : p.sharesWorth amountA = .ok burned)
    (paid : lpBurn burned p.reserveA p.reserveB p.lpSupply = .ok (outA, outB)) :
    ∃ q, (withdraw amountA).result p = (.ok ⟨outA, outB, burned⟩, q) := by
  simp only [withdraw, result_bind, result_get, result_ofExcept, worth, paid]
  exact ⟨_, rfl⟩

/-- A withdrawal fills just where what it asks for beyond the reserve is worth less than a share. -/
theorem withdraw_fills_iff (range : p.InRange) (reserve : 0 < p.reserveA) (supply : 0 < p.lpSupply)
    (asked : 0 ≤ amountA) :
    (∃ d q, (withdraw amountA).result p = (.ok d, q)) ↔
      (amountA - p.reserveA) * p.lpSupply < p.reserveA := by
  have ⟨rangeA, rangeB, _, small⟩ := range
  have expand : (amountA - p.reserveA) * p.lpSupply =
      amountA * p.lpSupply - p.lpSupply * p.reserveA := by grind
  have next : (p.lpSupply + 1) * p.reserveA = p.lpSupply * p.reserveA + p.reserveA := by grind
  constructor
  · rintro ⟨d, q, filled⟩
    obtain ⟨redeems, _⟩ := of_withdraw_ok filled
    obtain ⟨_, owned, _⟩ := lpBurn_eq redeems.paid
    have fewer := (Checked.quotient_lt_iff redeems.worth reserve).mp
      (by omega : d.burned < p.lpSupply + 1)
    omega
  · intro within
    have bounded : p.lpSupply * p.reserveA ≤ u64Max * u64Max :=
      mul_le_mul small rangeA.2 (le_of_lt reserve) (by decide)
    have fits : amountA * p.lpSupply ≤ u128Max := by
      simp only [u64Max, u128Max] at *
      omega
    have worth : Checked.quotient (amountA * p.lpSupply) p.reserveA =
        .ok (amountA * p.lpSupply / p.reserveA) := Checked.quotient_of_pos reserve
    have owned : amountA * p.lpSupply / p.reserveA ≤ p.lpSupply :=
      Int.lt_add_one_iff.mp ((Checked.quotient_lt_iff worth reserve).mpr (by omega))
    have nonneg := Checked.quotient_nonneg worth (mul_nonneg asked (le_of_lt supply)) reserve
    have shares : p.sharesWorth amountA = .ok (amountA * p.lpSupply / p.reserveA) := by
      rw [Pool.sharesWorth, Checked.product_of_le fits, Except.ok_bind, worth]
    exact ⟨_, withdraw_ok shares (lpBurn_of_range nonneg owned supply small rangeA rangeB)⟩

end PoolStep

theorem HaltSwitch.of_check_ok {ν α : Type} {next : Unit → Engine ν α} {w after : World ν} {a : α}
    (ended : (check >>= next).result w = (.ok a, after)) :
    w.halt = none ∧ (next ()).result w = (.ok a, after) := by
  rw [result_check_bind] at ended
  cases running : w.halt with
  | some reason =>
      rw [running] at ended
      cases ended
  | none =>
      rw [running] at ended
      exact ⟨rfl, ended⟩

namespace Trade

variable {α β : Type} {kind : VenueKind} {key : Key} {name : Name} {w after : World Int}
  {v : PaperVenue Int} {p : Pool Int} {amountA : Int}

/-- A step on a pool that succeeds has found its pool, and the rest goes on from what it left. -/
theorem of_onPool_ok {step : PoolStep Int α} {rest : α → Engine Int β} {b : β}
    (here : Table.get? kind w.venues = some (.paper v))
    (ended : (onPool kind v name step >>= rest).result w = (.ok b, after)) :
    ∃ key p a q, Key.ofName name = .ok key ∧ w.pool? kind key = some p ∧
      step.result p = (.ok a, q) ∧ (rest a).result (w.setPool kind key q) = (.ok b, after) := by
  cases named : Key.ofName name with
  | error f =>
      rw [onPool, named] at ended
      cases ended
  | ok key =>
      cases there : Table.get? key v.pools with
      | none =>
          rw [result_bind, result_onPool_missing named there] at ended
          cases ended
      | some p =>
          have held : w.pool? kind key = some p := (World.pool?_eq here).trans there
          rw [result_bind, result_onPool here named there] at ended
          cases taken : step.result p with
          | mk r q =>
              rw [taken] at ended
              cases r with
              | error f => cases ended
              | ok a => exact ⟨key, p, a, q, rfl, held, taken, ended⟩

/-- A deposit that fills has filled at a pool of its venue, and nothing else has changed but the
    journal. -/
theorem of_deposit_ok {amountB : Option Int} {minted : Int}
    (here : Table.get? kind w.venues = some (.paper v))
    (ended : (deposit kind name amountA amountB).result w = (.ok minted, after)) :
    w.halt = none ∧ ∃ key p q d, Key.ofName name = .ok key ∧ w.pool? kind key = some p ∧
      (PoolStep.deposit name amountA amountB).result p = (.ok d, q) ∧ minted = d.minted ∧
      (w.setPool kind key q).Noted after := by
  rw [deposit, Registry.result_find_bind here] at ended
  obtain ⟨running, ended⟩ := HaltSwitch.of_check_ok ended
  obtain ⟨key, p, d, q, named, held, taken, ended⟩ := of_onPool_ok here ended
  obtain ⟨_, _, journalled, ended⟩ := of_bind_ok ended
  cases ended
  exact ⟨running, key, p, q, d, named, held, taken, rfl,
    (log_noted _ _ _ (by decide)).of_ended journalled⟩

theorem of_withdraw_ok {outs : Int × Int} (here : Table.get? kind w.venues = some (.paper v))
    (ended : (withdraw kind name amountA).result w = (.ok outs, after)) :
    ∃ key p q d, Key.ofName name = .ok key ∧ w.pool? kind key = some p ∧
      (PoolStep.withdraw amountA).result p = (.ok d, q) ∧ outs = (d.outA, d.outB) ∧
      (w.setPool kind key q).Noted after := by
  rw [withdraw, Registry.result_find_bind here] at ended
  obtain ⟨_, ended⟩ := HaltSwitch.of_check_ok ended
  obtain ⟨key, p, d, q, named, held, taken, ended⟩ := of_onPool_ok here ended
  obtain ⟨_, _, journalled, ended⟩ := of_bind_ok ended
  cases ended
  exact ⟨key, p, q, d, named, held, taken, rfl,
    (log_noted _ _ _ (by decide)).of_ended journalled⟩

/-- What a withdrawal does unless trading is halted. -/
theorem result_withdraw (here : Table.get? kind w.venues = some (.paper v))
    (running : w.halt = none) :
    (withdraw kind name amountA).result w =
      (onPool kind v name (PoolStep.withdraw amountA) >>= fun done => do
        withdrawn v.kind name (.int done.burned) (.int done.outA) (.int done.outB)
        return (done.outA, done.outB)).result w := by
  rw [withdraw, Registry.result_find_bind here]
  dsimp only
  rw [HaltSwitch.result_check_bind, running]
  rfl

section

variable (named : Key.ofName name = .ok key) (held : w.pool? kind key = some p)
  (running : w.halt = none)

include named held running

/-- What is left to do of a withdrawal that its pool fills is to journal it. -/
theorem withdraw_ok {d : PoolStep.Withdrawal Int} {q : Pool Int}
    (bound : name.isWritable = true ∧ Json.fieldsWritable w.journal.bound = true)
    (legible : p.Legible) (filled : (PoolStep.withdraw amountA).result p = (.ok d, q)) :
    ∃ after, (withdraw kind name amountA).result w = (.ok (d.outA, d.outB), after) ∧
      (w.setPool kind key q).Noted after := by
  obtain ⟨v, here, there⟩ := World.of_pool? held
  rw [← (World.setPool_traded kind key q w).bound] at bound
  obtain ⟨after, logged⟩ := withdrawn_ok v.kind bound ⟨legible.reserveA, legible.reserveB⟩
    (PoolStep.of_withdraw_ok filled).1.paid
  refine ⟨after, ?_, (log_noted _ _ _ (by decide)).of_ended logged⟩
  rw [result_withdraw here running, result_bind, result_onPool here named there, filled]
  dsimp only
  rw [result_bind]
  rw [toJson_int, toJson_int, toJson_int] at logged
  rw [logged]
  rfl

/-- A withdrawal that its pool does not fill fails. -/
theorem withdraw_error {q : Pool Int} {f : Fault}
    (failed : (PoolStep.withdraw amountA).result p = (.error f, q)) :
    ∃ after, (withdraw kind name amountA).result w = (.error f, after) := by
  obtain ⟨v, here, there⟩ := World.of_pool? held
  rw [result_withdraw here running, result_bind, result_onPool here named there, failed]
  exact ⟨_, rfl⟩

end

end Trade

end TradingEngine
