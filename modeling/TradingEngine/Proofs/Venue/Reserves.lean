import TradingEngine.Proofs.ConstantProduct
import TradingEngine.Venue.Reserves

/-! # What a call leaves of a pool

On whole numbers a swap either fills or leaves its pool alone. A deposit writes three fields one
after the other and may break off between them; then it has only added to the reserves. A withdrawal
that has computed what it pays out goes through.
-/

namespace TradingEngine

open Quantity

namespace PoolStep

variable {ν α β : Type}

/-- Takes a step on a pool. -/
def result (step : PoolStep ν α) (p : Pool ν) : Except Fault α × Pool ν := step.run.run p

@[simp] theorem result_pure (a : α) (p : Pool ν) :
    (pure a : PoolStep ν α).result p = (.ok a, p) := rfl

theorem result_bind (step : PoolStep ν α) (next : α → PoolStep ν β) (p : Pool ν) :
    (step >>= next).result p = match step.result p with
      | (.ok a, after) => (next a).result after
      | (.error f, after) => (.error f, after) := by
  simp only [result, ExceptT.run_bind, StateT.run_bind]
  cases h : step.run.run p with
  | mk ended after => cases ended <;> simp_all [StateT.run] <;> rfl

@[simp] theorem result_get (p : Pool ν) : (get : PoolStep ν (Pool ν)).result p = (.ok p, p) := rfl

@[simp] theorem result_modify (f : Pool ν → Pool ν) (p : Pool ν) :
    (modify f : PoolStep ν PUnit).result p = (.ok ⟨⟩, f p) := rfl

@[simp] theorem result_ofExcept (r : Except Fault α) (p : Pool ν) :
    (ofExcept r : PoolStep ν α).result p = (r, p) := rfl

variable [Quantity ν]

/-- What a swap still does when its least output is known. -/
def exchange (p : Pool ν) (token : Name) (amountIn out least : ν) : PoolStep ν ν := do
  let _ ← ofExcept (Guard.minimumOut out least)
  if Json.same token p.tokenA then
    let grown ← ofExcept (add p.reserveA amountIn >>= Checked.toU64)
    modify ({ · with reserveA := grown })
    let left ← ofExcept (sub p.reserveB out)
    modify ({ · with reserveB := left })
  else
    let grown ← ofExcept (add p.reserveB amountIn >>= Checked.toU64)
    modify ({ · with reserveB := grown })
    let left ← ofExcept (sub p.reserveA out)
    modify ({ · with reserveA := left })
  return out

/-- What a deposit writes. Each amount is added only if the sum fits, and what is written by then
    stays. -/
def credit (p : Pool ν) (amountA : ν) (d : Deposit ν) : PoolStep ν (Deposit ν) := do
  let reserveA ← ofExcept (add p.reserveA amountA >>= Checked.toU64)
  modify ({ · with reserveA := reserveA })
  let reserveB ← ofExcept (add p.reserveB d.amountB >>= Checked.toU64)
  modify ({ · with reserveB := reserveB })
  let lpSupply ← ofExcept (add p.lpSupply d.minted >>= Checked.toU64)
  modify ({ · with lpSupply := lpSupply })
  return d

/-- What a deposit still does when both of its amounts are known. -/
def join (p : Pool ν) (amountA amountB : ν) : PoolStep ν (Deposit ν) := do
  let minted ← ofExcept (p.minted amountA amountB)
  if isZero minted then throw (Cause.depositTooSmall (toJson amountA) (toJson amountB)).fault
  credit p amountA ⟨amountB, minted⟩

end PoolStep

theorem Guard.le_of_minimumOut_ok {out least n : Int} (h : minimumOut out least = .ok n) :
    least ≤ out := by
  refine Int.not_lt.mp fun below => ?_
  simp only [minimumOut, lt_int, Except.ok_bind] at h
  rw [decide_eq_true below] at h
  cases h

/-- The least output of a swap that is quoted so much. -/
def leastOutput (minimumOut : Option Int) (quoted slippageBps : Int) : Except Fault Int :=
  match minimumOut with
  | some least => .ok least
  | none => ConstantProduct.haircut quoted slippageBps

namespace Pool

/-- The pool after it has taken in `amountIn` of `token` and paid `out` of the other one. -/
def exchanged (p : Pool Int) (token : Name) (amountIn out : Int) : Pool Int :=
  if Json.same token p.tokenA then
    { p with reserveA := p.reserveA + amountIn, reserveB := p.reserveB - out }
  else { p with reserveB := p.reserveB + amountIn, reserveA := p.reserveA - out }

/-- What a swap pays, if nothing speaks against it. -/
def sale (p : Pool Int) (token : Name) (amountIn : Int) (minimumOut : Option Int)
    (slippageBps : Int) : Except Fault Int := do
  let out ← p.quote token amountIn
  let minimum ← match minimumOut with
    | some least => pure least
    | none => ConstantProduct.haircut out slippageBps
  let _ ← Guard.minimumOut out minimum
  let reserveIn := if Json.same token p.tokenA then p.reserveA else p.reserveB
  let _ ← Checked.toU64 (reserveIn + amountIn)
  return out

/-- What is sold is paid as quoted, there is room for it, and it is paid no less than the least
    output. -/
theorem sale_eq {p : Pool Int} {token : Name} {amountIn slippageBps out : Int}
    {minimumOut : Option Int} (h : p.sale token amountIn minimumOut slippageBps = .ok out) :
    p.quote token amountIn = .ok out ∧
      (if Json.same token p.tokenA then p.reserveA else p.reserveB) + amountIn ≤ u64Max ∧
      ∃ least, leastOutput minimumOut out slippageBps = .ok least ∧ least ≤ out := by
  obtain ⟨quoted, priced, h⟩ := Except.of_bind_ok h
  have filled {minimum : Int}
      (asked : leastOutput minimumOut quoted slippageBps = .ok minimum) (h : (do
        let _ ← Guard.minimumOut quoted minimum
        let reserveIn := if Json.same token p.tokenA then p.reserveA else p.reserveB
        let _ ← Checked.toU64 (reserveIn + amountIn)
        return quoted : Except Fault Int) = .ok out) :
      p.quote token amountIn = .ok out ∧
        (if Json.same token p.tokenA then p.reserveA else p.reserveB) + amountIn ≤ u64Max ∧
        ∃ least, leastOutput minimumOut out slippageBps = .ok least ∧ least ≤ out := by
    obtain ⟨_, guarded, h⟩ := Except.of_bind_ok h
    obtain ⟨_, fits, h⟩ := Except.of_bind_ok h
    cases h
    exact ⟨priced, (Checked.of_toU64_ok fits).2, minimum, asked, Guard.le_of_minimumOut_ok guarded⟩
  cases minimumOut with
  | some least => exact filled rfl h
  | none =>
      obtain ⟨_, left, h⟩ := Except.of_bind_ok h
      exact filled left h

theorem of_sale_ok {p : Pool Int} {token : Name} {amountIn slippageBps out : Int}
    {minimumOut : Option Int} (h : p.sale token amountIn minimumOut slippageBps = .ok out) :
    p.quote token amountIn = .ok out := (sale_eq h).1

/-- A swap is paid out of the reserve of the other token. -/
theorem quote_covered {p : Pool Int} {token : Name} {amountIn out : Int}
    (quoted : p.quote token amountIn = .ok out) :
    0 ≤ amountIn ∧ 0 ≤ out ∧
      out ≤ if Json.same token p.tokenA then p.reserveB else p.reserveA := by
  obtain ⟨sides, found, paid⟩ := Except.of_bind_ok quoted
  obtain ⟨nonneg, earned, covered, _⟩ := ConstantProduct.of_swapOutput_ok paid
  refine ⟨nonneg, earned, ?_⟩
  unfold Pool.sides at found
  cases soldA : Json.same token p.tokenA with
  | true =>
      rw [soldA, if_pos rfl] at found
      cases found
      exact covered
  | false =>
      rw [soldA, if_neg Bool.false_ne_true] at found
      split at found
      · cases found
        exact covered
      · cases found

/-- A swap moves both sides of its direction. -/
theorem sides_exchanged {p : Pool Int} {token : Name} {reserveIn reserveOut : Int}
    (listed : p.sides token = .ok (reserveIn, reserveOut)) (amountIn out : Int) :
    (p.exchanged token amountIn out).sides token =
      .ok (reserveIn + amountIn, reserveOut - out) := by
  unfold sides at listed
  by_cases first : Json.same token p.tokenA = true
  · rw [if_pos first] at listed
    cases listed
    rw [exchanged, if_pos first, sides, if_pos first]
  · rw [if_neg first] at listed
    split at listed
    · rename_i second
      cases listed
      rw [exchanged, if_neg first, sides, if_neg first, if_pos second]
    · cases listed

theorem feeBps_exchanged (p : Pool Int) (token : Name) (amountIn out : Int) :
    (p.exchanged token amountIn out).feeBps = p.feeBps := by
  unfold exchanged
  split <;> rfl

/-! ### What a deposit is granted -/

/-- The shares that a deposit is granted and the second amount that goes with them, if nothing
    speaks against it. -/
def grant (p : Pool Int) (name : Name) (amountA : Int) (amountB : Option Int) :
    Except Fault (PoolStep.Deposit Int) := do
  if p.isUnowned then refuse (.unownedReserves name (toJson p.reserveA) (toJson p.reserveB))
  let b ← match amountB with
    | some b => pure b
    | none => p.proportional amountA
  let minted ← p.minted amountA b
  if isZero minted then refuse (.depositTooSmall (toJson amountA) (toJson b))
  return ⟨b, minted⟩

/-- A granted deposit, if the pool has room for all of it. -/
def room (p : Pool Int) (amountA : Int) (d : PoolStep.Deposit Int) :
    Except Fault (PoolStep.Deposit Int) := do
  let _ ← Checked.toU64 (p.reserveA + amountA)
  let _ ← Checked.toU64 (p.reserveB + d.amountB)
  let _ ← Checked.toU64 (p.lpSupply + d.minted)
  return d

/-- The pool after a granted deposit, as far as the pool has room for it: both reserves and the
    supply are written in this order. -/
def credited (p : Pool Int) (amountA : Int) (d : PoolStep.Deposit Int) : Pool Int :=
  if u64Max < p.reserveA + amountA then p
  else if u64Max < p.reserveB + d.amountB then { p with reserveA := p.reserveA + amountA }
  else if u64Max < p.lpSupply + d.minted then
    { p with reserveA := p.reserveA + amountA, reserveB := p.reserveB + d.amountB }
  else
    { p with
      reserveA := p.reserveA + amountA, reserveB := p.reserveB + d.amountB
      lpSupply := p.lpSupply + d.minted }

section

variable {p : Pool Int} {amountA : Int} {d : PoolStep.Deposit Int}

theorem credited_of_fullA (fullA : u64Max < p.reserveA + amountA) : p.credited amountA d = p := by
  rw [credited, if_pos fullA]

theorem reserveA_credited (fitsA : p.reserveA + amountA ≤ u64Max) :
    (p.credited amountA d).reserveA = p.reserveA + amountA := by
  rw [credited, if_neg (Int.not_lt.mpr fitsA)]
  split
  · rfl
  · split <;> rfl

theorem reserveB_credited (fitsA : p.reserveA + amountA ≤ u64Max)
    (fitsB : p.reserveB + d.amountB ≤ u64Max) :
    (p.credited amountA d).reserveB = p.reserveB + d.amountB := by
  rw [credited, if_neg (Int.not_lt.mpr fitsA), if_neg (Int.not_lt.mpr fitsB)]
  split <;> rfl

theorem lpSupply_credited (fitsA : p.reserveA + amountA ≤ u64Max)
    (fitsB : p.reserveB + d.amountB ≤ u64Max) (fits : p.lpSupply + d.minted ≤ u64Max) :
    (p.credited amountA d).lpSupply = p.lpSupply + d.minted := by
  rw [credited, if_neg (Int.not_lt.mpr fitsA), if_neg (Int.not_lt.mpr fitsB),
    if_neg (Int.not_lt.mpr fits)]

/-- Nothing is minted for a deposit that breaks off before the supply is written. -/
theorem lpSupply_credited_of_full (full : u64Max < p.reserveA + amountA ∨
    u64Max < p.reserveB + d.amountB ∨ u64Max < p.lpSupply + d.minted) :
    (p.credited amountA d).lpSupply = p.lpSupply := by
  unfold credited
  split
  · rfl
  split
  · rfl
  rw [if_pos (by omega)]

end

/-- No reserve is without shares that own it. -/
def Owned (p : Pool Int) : Prop := p.lpSupply = 0 → p.reserveA = 0 ∧ p.reserveB = 0

/-- What a granted deposit has been found to be. -/
structure Granted (p : Pool Int) (amountA : Int) (amountB : Option Int)
    (d : PoolStep.Deposit Int) : Prop where
  owned : p.Owned
  second : amountB = some d.amountB ∨ amountB = none ∧ p.proportional amountA = .ok d.amountB
  minted : p.minted amountA d.amountB = .ok d.minted
  some_shares : d.minted ≠ 0

theorem owned_of_not_isUnowned {p : Pool Int} (owned : p.isUnowned = false) : p.Owned := by
  intro empty
  simpa [isUnowned, empty] using owned

theorem of_grant_ok {p : Pool Int} {name : Name} {amountA : Int} {amountB : Option Int}
    {d : PoolStep.Deposit Int} (h : p.grant name amountA amountB = .ok d) :
    p.Granted amountA amountB d := by
  unfold grant at h
  cases owned : p.isUnowned with
  | true =>
      rw [owned, if_pos rfl] at h
      cases h
  | false =>
      have earned {b : Int} (h : (do
          let minted ← p.minted amountA b
          if isZero minted then refuse (.depositTooSmall (toJson amountA) (toJson b))
          return ⟨b, minted⟩ : Except Fault (PoolStep.Deposit Int)) = .ok d) :
          b = d.amountB ∧ p.minted amountA b = .ok d.minted ∧ d.minted ≠ 0 := by
        obtain ⟨minted, earned, h⟩ := Except.of_bind_ok h
        by_cases none : minted = 0
        · rw [isZero_int, decide_eq_true none] at h
          cases h
        · rw [isZero_int, decide_eq_false none] at h
          cases h
          exact ⟨rfl, earned, none⟩
      rw [owned] at h
      simp only [Bool.false_eq_true, if_false] at h
      cases amountB with
      | some b =>
          obtain ⟨rfl, minted, some_shares⟩ := earned h
          exact ⟨owned_of_not_isUnowned owned, .inl rfl, minted, some_shares⟩
      | none =>
          obtain ⟨b, priced, h⟩ := Except.of_bind_ok h
          obtain ⟨rfl, minted, some_shares⟩ := earned h
          exact ⟨owned_of_not_isUnowned owned, .inr ⟨rfl, priced⟩, minted, some_shares⟩

namespace Granted

variable {p : Pool Int} {amountA : Int} {amountB : Option Int} {d : PoolStep.Deposit Int}

/-- The first deposit into a pool names both amounts, and its shares are the first one. -/
theorem first (granted : p.Granted amountA amountB d) (empty : p.lpSupply = 0) :
    p.reserveA = 0 ∧ p.reserveB = 0 ∧ d.minted = amountA ∧ amountA ≠ 0 ∧
      amountB = some d.amountB := by
  obtain ⟨emptyA, emptyB⟩ := granted.owned empty
  have minted : d.minted = amountA := by
    have earned := granted.minted
    rw [Pool.minted, isZero_int, decide_eq_true empty, if_pos rfl] at earned
    exact (Except.ok.inj earned).symm
  refine ⟨emptyA, emptyB, minted, minted ▸ granted.some_shares, ?_⟩
  rcases granted.second with given | ⟨_, priced⟩
  · exact given
  · obtain ⟨_, _, divided⟩ := Except.of_bind_ok priced
    exact absurd emptyA (Checked.of_quotient_ok divided).1

theorem later (granted : p.Granted amountA amountB d) (supply : p.lpSupply ≠ 0) :
    ConstantProduct.lpMint amountA d.amountB p.reserveA p.reserveB p.lpSupply = .ok d.minted := by
  have earned := granted.minted
  rwa [Pool.minted, isZero_int, decide_eq_false supply, if_neg Bool.false_ne_true] at earned

end Granted

end Pool

namespace PoolStep

theorem result_exchange (p : Pool Int) (token : Name) (amountIn out minimum : Int) :
    (exchange p token amountIn out minimum).result p =
    match (do
      let _ ← Guard.minimumOut out minimum
      let reserveIn := if Json.same token p.tokenA then p.reserveA else p.reserveB
      let _ ← Checked.toU64 (reserveIn + amountIn)
      return out : Except Fault Int) with
    | .ok out => (.ok out, p.exchanged token amountIn out)
    | .error f => (.error f, p) := by
  have grows (r : Int) : (add r amountIn >>= Checked.toU64) = Checked.toU64 (r + amountIn) := rfl
  rw [exchange, result_bind, result_ofExcept]
  cases Guard.minimumOut out minimum with
  | error f => rfl
  | ok _ =>
      cases sold : Json.same token p.tokenA with
      | true =>
          simp only [if_true, Pool.exchanged, result_bind, result_ofExcept, grows, sold]
          cases grown : Checked.toU64 (p.reserveA + amountIn) with
          | error f => rfl
          | ok n =>
              rw [(Checked.of_toU64_ok grown).1]
              rfl
      | false =>
          simp only [Bool.false_eq_true, if_false, Pool.exchanged, result_bind, result_ofExcept,
            grows, sold]
          cases grown : Checked.toU64 (p.reserveB + amountIn) with
          | error f => rfl
          | ok n =>
              rw [(Checked.of_toU64_ok grown).1]
              rfl

/-- A swap fills or leaves the pool alone. -/
theorem result_swap (p : Pool Int) (token : Name) (amountIn : Int) (minimumOut : Option Int)
    (slippageBps : Int) :
    (swap token amountIn minimumOut slippageBps).result p =
      match p.sale token amountIn minimumOut slippageBps with
      | .ok out => (.ok out, p.exchanged token amountIn out)
      | .error f => (.error f, p) := by
  simp only [swap, Pool.sale, result_bind, result_get, result_ofExcept]
  cases quoted : p.quote token amountIn with
  | error f => rfl
  | ok out =>
      cases minimumOut with
      | some least => exact result_exchange p token amountIn out least
      | none =>
          rw [Except.ok_bind]
          dsimp only
          rw [result_bind, result_ofExcept]
          cases ConstantProduct.haircut out slippageBps with
          | error f => rfl
          | ok minimum => exact result_exchange p token amountIn out minimum

/-! ### Deposits and withdrawals -/

theorem result_credit (p : Pool Int) (amountA : Int) (d : Deposit Int) :
    (credit p amountA d).result p =
    (p.room amountA d, p.credited amountA d) := by
  have grows (r n : Int) : (add r n >>= Checked.toU64) = Checked.toU64 (r + n) := rfl
  simp only [credit, result_bind, result_ofExcept, result_modify, grows, Pool.room, Pool.credited]
  by_cases fullA : u64Max < p.reserveA + amountA
  · rw [Checked.toU64_of_lt fullA, if_pos fullA]
    rfl
  rw [Checked.toU64_of_le (Int.not_lt.mp fullA), if_neg fullA]
  by_cases fullB : u64Max < p.reserveB + d.amountB
  · rw [Checked.toU64_of_lt fullB, if_pos fullB]
    rfl
  rw [Checked.toU64_of_le (Int.not_lt.mp fullB), if_neg fullB]
  by_cases fullSupply : u64Max < p.lpSupply + d.minted
  · rw [Checked.toU64_of_lt fullSupply, if_pos fullSupply]
    rfl
  · rw [Checked.toU64_of_le (Int.not_lt.mp fullSupply), if_neg fullSupply]
    rfl

/-- A deposit that is not granted leaves the pool alone; one that is granted is written as far as it
    fits. -/
theorem result_deposit (p : Pool Int) (name : Name) (amountA : Int) (amountB : Option Int) :
    (deposit name amountA amountB).result p =
      match p.grant name amountA amountB with
      | .ok d => (p.room amountA d, p.credited amountA d)
      | .error f => (.error f, p) := by
  have earned (b : Int) : (join p amountA b).result p =
      match (do
        let minted ← p.minted amountA b
        if isZero minted then refuse (.depositTooSmall (toJson amountA) (toJson b))
        return ⟨b, minted⟩ : Except Fault (Deposit Int)) with
      | .ok d => (p.room amountA d, p.credited amountA d)
      | .error f => (.error f, p) := by
    rw [join, result_bind, result_ofExcept]
    cases p.minted amountA b with
    | error f => rfl
    | ok minted =>
        rw [Except.ok_bind]
        dsimp only
        cases isZero minted with
        | true => rfl
        | false => exact result_credit p amountA ⟨b, minted⟩
  rw [deposit, result_bind, result_get, Pool.grant]
  dsimp only
  cases p.isUnowned with
  | true => rfl
  | false =>
      cases amountB with
      | some b => exact earned b
      | none =>
          simp only [Bool.false_eq_true, if_false]
          rw [result_bind, result_ofExcept]
          cases p.proportional amountA with
          | error f => rfl
          | ok b => exact earned b

/-- A withdrawal pays out both reserves or leaves the pool alone. -/
theorem withdraw_outcome (p : Pool Int) (amountA : Int) :
    (∃ f, (withdraw amountA).result p = (.error f, p)) ∨
      ∃ burned outA outB,
        ConstantProduct.lpBurn burned p.reserveA p.reserveB p.lpSupply = .ok (outA, outB) ∧
          (withdraw amountA).result p = (.ok ⟨outA, outB, burned⟩,
            { p with
              reserveA := p.reserveA - outA, reserveB := p.reserveB - outB
              lpSupply := p.lpSupply - burned }) := by
  simp only [withdraw, result_bind, result_get, result_ofExcept]
  cases p.sharesWorth amountA with
  | error f => exact .inl ⟨f, rfl⟩
  | ok burned =>
      dsimp only
      cases paid : ConstantProduct.lpBurn burned p.reserveA p.reserveB p.lpSupply with
      | error f => exact .inl ⟨f, rfl⟩
      | ok outs => exact .inr ⟨burned, outs.1, outs.2, paid, rfl⟩

end PoolStep

end TradingEngine
