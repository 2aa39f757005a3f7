import TradingEngine.Record.Loose
import TradingEngine.Record.Market
import TradingEngine.Table

/-! # Pools changed by hand

A pool that is changed by hand is kept as a loose record. It trades as any other pool does, as far
as its fields can be read and written; where they cannot, the trade breaks down. A paper venue with
such a pool is a loose venue.
-/

namespace TradingEngine

variable {ν : Type} [Quantity ν]

/-- A pool as a record that can be changed by hand. -/
def Pool.loose (p : Pool ν) : LooseRecord :=
  let own := p.toJson.fields
  { kind := .pool, fields := own.map (·.1), own }

/-- The pool with its amounts as quantities of another type. -/
def Pool.quantified (p : Pool Json) : Except Fault (Pool ν) :=
  return {
    tokenA := p.tokenA
    tokenB := p.tokenB
    reserveA := ← Quantity.ofJson p.reserveA
    reserveB := ← Quantity.ofJson p.reserveB
    feeBps := ← Quantity.ofJson p.feeBps
    lpSupply := ← Quantity.ofJson p.lpSupply }

namespace LooseRecord

/-! ### The pool in a record -/

/-- The pool that a record comes to. A field that cannot be read is taken as zero. -/
def pool (r : LooseRecord) : Pool Json :=
  let value (name : Text) : Json := (r.read name).toOption.getD (.int 0)
  { tokenA := value "token_a"
    tokenB := value "token_b"
    reserveA := value "reserve_a"
    reserveB := value "reserve_b"
    feeBps := value "fee_bps"
    lpSupply := value "lp_supply" }

/-- The record with these reserves and shares. -/
def withAmounts (p : Pool Json) (r : LooseRecord) : LooseRecord :=
  ((r.keep "reserve_a" p.reserveA).keep "reserve_b" p.reserveB).keep "lp_supply" p.lpSupply

/-- The reserves and the shares of the pool. -/
def amounts (r : LooseRecord) : Except Breakdown (List Json) := do
  return [← r.read "reserve_a", ← r.read "reserve_b", ← r.read "lp_supply"]

/-- Breaks down where a trade that sells `token` cannot read what it needs: the tokens up to the one
    that is sold, and then the reserves and the fee. -/
def checkTrade (token : Name) (r : LooseRecord) : Except Breakdown Unit := do
  if r.holds "sides" then .error .wrongType
  if !Json.same token (← r.read "token_a") then
    if !Json.same token (← r.read "token_b") then return ()
  r.check ["reserve_a", "reserve_b", "fee_bps"]

/-- The pool as far as a trade that sells `token` reads it. -/
def poolFor (token : Name) (r : LooseRecord) : Except Fault (Pool Json) := do
  (r.checkTrade token).mapError .breakdown
  return r.pool

/-! ### Trades -/

/-- What selling `amountIn` of `token` pays. -/
def quote (token : Name) (amountIn : Json) (r : LooseRecord) : Except Fault Json := do
  if r.holds "quote" then throw (.breakdown .wrongType)
  (← r.poolFor token).quote token amountIn

/-- Writes fields of the pool in a record, if they can be written. -/
def writer (r : LooseRecord) : PoolWriter Json := fun change => do
  PoolStep.ofExcept (r.checkWriters.mapError .breakdown)
  modify change
  PoolStep.ofExcept (r.checkNotes.mapError .breakdown)

/-- Takes a step on the pool in a record. -/
def step {α : Type} (body : PoolWriter Json → PoolStep Json α) (r : LooseRecord) :
    Except Fault α × LooseRecord :=
  let (ended, after) := (body r.writer).run.run r.pool
  (ended, r.withAmounts after)

/-- Sells `amountIn` of `token` and gives what was paid. -/
def swap (token : Name) (amountIn : Json) (minimumOut : Option Json) (slippageBps : Json)
    (r : LooseRecord) : Except Fault Json × LooseRecord :=
  match r.quote token amountIn with
  | .error fault => (.error fault, r)
  | .ok _ => r.step fun write => PoolStep.swap token amountIn minimumOut slippageBps write

/-- Deposits both tokens for shares. -/
def deposit (name : Name) (amountA : Json) (amountB : Option Json) (r : LooseRecord) :
    Except Fault (PoolStep.Deposit Json) × LooseRecord :=
  r.step fun write => PoolStep.deposit name amountA amountB write

/-- Burns the shares worth `amountA` of the first token. -/
def withdraw (amountA : Json) (r : LooseRecord) :
    Except Fault (PoolStep.Withdrawal Json) × LooseRecord :=
  r.step fun write => PoolStep.withdraw amountA write

end LooseRecord

end TradingEngine
