import TradingEngine.Arithmetic.ConstantProduct
import TradingEngine.Guard

/-! # Pool reserves

The reserves of one constant-product pool and what swaps, deposits and withdrawals do to them. A
pool is named in failures only; its name is no part of its state.
-/

namespace TradingEngine

/-- Two reserves, the fee of a swap and the shares that own the reserves. -/
structure Pool (ν : Type) where
  tokenA : Name
  tokenB : Name
  reserveA : ν
  reserveB : ν
  feeBps : ν
  lpSupply : ν
  deriving BEq, Repr

/-- A step on a pool: it may end in a fault, and what it has written by then stays written. -/
abbrev PoolStep (ν α : Type) := ExceptT Fault (StateM (Pool ν)) α

/-- How the fields of a pool are written. -/
abbrev PoolWriter (ν : Type) := (Pool ν → Pool ν) → PoolStep ν Unit

variable {ν : Type} [Quantity ν]

open Quantity

namespace Pool

/-- The reserves in the direction of a swap that sells `token`: what comes in, what goes out. -/
def sides (pool : Pool ν) (token : Name) : Except Fault (ν × ν) :=
  if Json.same token pool.tokenA then .ok (pool.reserveA, pool.reserveB)
  else if Json.same token pool.tokenB then .ok (pool.reserveB, pool.reserveA)
  else refuse (.tokenNotInPool token pool.tokenA pool.tokenB)

/-- What selling `amountIn` of `token` pays. -/
def quote (pool : Pool ν) (token : Name) (amountIn : ν) : Except Fault ν := do
  let (reserveIn, reserveOut) ← pool.sides token
  ConstantProduct.swapOutput amountIn reserveIn reserveOut pool.feeBps

/-- Whether a pool has reserves that no share owns. -/
def isUnowned (pool : Pool ν) : Bool :=
  isZero pool.lpSupply && (truthy pool.reserveA || truthy pool.reserveB)

/-- The amount of the second token that goes with an amount of the first. -/
def proportional (pool : Pool ν) (amountA : ν) : Except Fault ν := do
  Checked.quotient (← Checked.product amountA pool.reserveB) pool.reserveA

/-- The shares that a deposit earns. The first deposit of a pool sets their unit. -/
def minted (pool : Pool ν) (amountA amountB : ν) : Except Fault ν :=
  if isZero pool.lpSupply then .ok amountA
  else ConstantProduct.lpMint amountA amountB pool.reserveA pool.reserveB pool.lpSupply

/-- The shares worth an amount of the first token. -/
def sharesWorth (pool : Pool ν) (amountA : ν) : Except Fault ν := do
  Checked.quotient (← Checked.product amountA pool.lpSupply) pool.reserveA

end Pool

namespace PoolStep

/-- A computation that leaves the pool alone. -/
def ofExcept {α : Type} (result : Except Fault α) : PoolStep ν α := ExceptT.mk (pure result)

/-- Sells `amountIn` of `token` and gives what was paid. Without an explicit minimum the quote less
    the slippage is the least output. -/
def swap (token : Name) (amountIn : ν) (minimumOut : Option ν) (slippageBps : ν)
    (write : PoolWriter ν := modify) : PoolStep ν ν := do
  let pool ← get
  let amountOut ← ofExcept (pool.quote token amountIn)
  let minimum ← match minimumOut with
    | some least => pure least
    | none => ofExcept (ConstantProduct.haircut amountOut slippageBps)
  let _ ← ofExcept (Guard.minimumOut amountOut minimum)
  if Json.same token pool.tokenA then
    let grown ← ofExcept (add pool.reserveA amountIn >>= Checked.toU64)
    write ({ · with reserveA := grown })
    let left ← ofExcept (sub pool.reserveB amountOut)
    write ({ · with reserveB := left })
  else
    let grown ← ofExcept (add pool.reserveB amountIn >>= Checked.toU64)
    write ({ · with reserveB := grown })
    let left ← ofExcept (sub pool.reserveA amountOut)
    write ({ · with reserveA := left })
  return amountOut

/-- What a deposit has put into a pool. -/
structure Deposit (ν : Type) where
  amountB : ν
  minted : ν
  deriving DecidableEq, Repr

/-- Deposits both tokens for shares. An omitted second amount is the proportional one. The three
    fields are written one after the other, each with its own range check. -/
def deposit (name : Name) (amountA : ν) (amountB : Option ν) (write : PoolWriter ν := modify) :
    PoolStep ν (Deposit ν) := do
  let pool ← get
  if pool.isUnowned then
    throw (Cause.unownedReserves name (toJson pool.reserveA) (toJson pool.reserveB)).fault
  let b ← match amountB with
    | some b => pure b
    | none => ofExcept (pool.proportional amountA)
  let minted ← ofExcept (pool.minted amountA b)
  if isZero minted then throw (Cause.depositTooSmall (toJson amountA) (toJson b)).fault
  let reserveA ← ofExcept (add pool.reserveA amountA >>= Checked.toU64)
  write ({ · with reserveA := reserveA })
  let reserveB ← ofExcept (add pool.reserveB b >>= Checked.toU64)
  write ({ · with reserveB := reserveB })
  let lpSupply ← ofExcept (add pool.lpSupply minted >>= Checked.toU64)
  write ({ · with lpSupply := lpSupply })
  return ⟨b, minted⟩

/-- What a withdrawal has taken out of a pool. -/
structure Withdrawal (ν : Type) where
  outA : ν
  outB : ν
  burned : ν
  deriving DecidableEq, Repr

/-- Burns the shares worth `amountA` of the first token and pays out their part of both reserves. -/
def withdraw (amountA : ν) (write : PoolWriter ν := modify) : PoolStep ν (Withdrawal ν) := do
  let pool ← get
  let burned ← ofExcept (pool.sharesWorth amountA)
  let (outA, outB) ←
    ofExcept (ConstantProduct.lpBurn burned pool.reserveA pool.reserveB pool.lpSupply)
  let reserveA ← ofExcept (sub pool.reserveA outA)
  write ({ · with reserveA := reserveA })
  let reserveB ← ofExcept (sub pool.reserveB outB)
  write ({ · with reserveB := reserveB })
  let lpSupply ← ofExcept (sub pool.lpSupply burned)
  write ({ · with lpSupply := lpSupply })
  return ⟨outA, outB, burned⟩

end PoolStep

end TradingEngine
