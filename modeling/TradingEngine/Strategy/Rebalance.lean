import TradingEngine.Market.Words
import TradingEngine.Strategy.Context
import TradingEngine.Venue.Trade

/-! # Rebalancing

Moves liquidity between pools toward target shares of the whole. Planning compares what is held with
what is aimed at; carrying out the moves is a separate step.
-/

namespace TradingEngine

/-- What share of the whole a pool is to hold, in percent. -/
structure LiquidityTarget where
  venue : VenueKind
  pool : Text
  share : Int
  deriving DecidableEq, Repr

/-- Whether a move puts liquidity in or takes it out. -/
inductive MoveDirection where
  | add
  | remove
  deriving DecidableEq, Repr, Inhabited

namespace MoveDirection

def name : MoveDirection → String
  | add => "add"
  | remove => "remove"

def all : List MoveDirection := [add, remove]

end MoveDirection

/-- One step of a plan. -/
structure LiquidityMove where
  venue : VenueKind
  pool : Text
  amount : Int
  direction : MoveDirection
  deriving DecidableEq, Repr

/-- What liquidity is held by: a venue as a whole, or one pool of it. -/
abbrev Holder := VenueKind × Option Key

open Quantity

variable {ν : Type} [Quantity ν]

/-- The move of this amount, which has to be a whole number. -/
def LiquidityMove.ofQuantity (target : LiquidityTarget) (amount : ν) (direction : MoveDirection) :
    Except Fault LiquidityMove :=
  ((fun amount => ⟨target.venue, target.pool, amount, direction⟩)
    <$> Decoder.field "amount" amount).orFault .move

@[simp] theorem LiquidityMove.ofQuantity_int (target : LiquidityTarget) (amount : Int)
    (direction : MoveDirection) :
    LiquidityMove.ofQuantity target amount direction =
      .ok ⟨target.venue, target.pool, amount, direction⟩ := rfl

namespace Rebalance

/-- The sum of the shares of the targets. -/
def shareSum (targets : List LiquidityTarget) : Int :=
  (targets.map (·.share)).foldr (· + ·) 0

/-- Refuses targets whose shares do not add up to the whole. -/
def checkShares (targets : List LiquidityTarget) : Except Fault Unit :=
  if shareSum targets = 100 then .ok () else refuse (.ratiosOff (shareSum targets))

/-- Adds an amount to what a holder has. -/
def addHolding (table : List (Holder × ν)) (holder : Holder) (amount : ν) :
    Except Fault (List (Holder × ν)) := do
  let sum ← add ((Table.get? holder table).getD (ofInt 0)) amount
  return Table.put holder sum table

/-- The holdings with the amounts of equal holders added up. -/
def gather (current : List (Holder × ν)) : Except Fault (List (Holder × ν)) :=
  current.foldlM (fun table (holder, amount) => addHolding table holder amount) []

/-- What a target holds: the entry of its pool, or else of its venue. -/
def held (holdings : List (Holder × ν)) (target : LiquidityTarget) : ν :=
  match Table.get? (target.venue, some (.text target.pool)) holdings with
  | some amount => amount
  | none => (Table.get? (target.venue, none) holdings).getD (ofInt 0)

/-- The move that brings a target from what it holds to its share of the total. -/
def move? (holdings : List (Holder × ν)) (total : ν) (target : LiquidityTarget) :
    Except Fault (Option LiquidityMove) := do
  let aim ← floorDiv (← mul total (ofInt target.share)) (ofInt 100)
  let present := held holdings target
  if ← lt present aim then
    return some (← LiquidityMove.ofQuantity target (← sub aim present) .add)
  if ← lt aim present then
    return some (← LiquidityMove.ofQuantity target (← sub present aim) .remove)
  return none

/-- The sum of gathered holdings. -/
def total (holdings : List (Holder × ν)) : Except Fault ν :=
  holdings.foldlM (fun sum (_, amount) => add sum amount) (ofInt 0)

/-- The moves that bring every target from gathered holdings to its share. -/
def moves (holdings : List (Holder × ν)) (targets : List LiquidityTarget) :
    Except Fault (List LiquidityMove) := do
  let whole ← total holdings
  targets.filterMapM (move? holdings whole)

/-- The moves that bring every target to its share. The shares have to add up to the whole. -/
def plan (current : List (Holder × ν)) (targets : List LiquidityTarget) :
    Except Fault (List LiquidityMove) := do
  checkShares targets
  moves (← gather current) targets

/-- Plans for gathered holdings and journals the plan. -/
def announce (holdings : List (Holder × ν)) (targets : List LiquidityTarget) :
    Engine ν (List LiquidityMove) := do
  let whole ← Engine.ofExcept (total holdings)
  let found ← Engine.ofExcept (moves holdings targets)
  Engine.log .info "REBALANCE_PLANNED"
    [("total", Quantity.toJson whole), ("moves", .int found.length)]
  return found

/-- Plans and journals the plan. -/
def compute (current : List (Holder × ν)) (targets : List LiquidityTarget) :
    Engine ν (List LiquidityMove) := do
  Engine.ofExcept (checkShares targets)
  announce (← Engine.ofExcept (gather current)) targets

/-- One row of holdings as a caller wrote it: a venue, a pool or nothing in its place, and an
    amount. -/
structure Row (ν : Type) where
  venue : Name
  pool : Name
  amount : ν

/-- Who holds the amount of a row. -/
def Row.holder {ν : Type} (row : Row ν) : Except Fault Holder := do
  let venue ← VenueKind.ofName row.venue
  match row.pool with
  | .null => return (venue, none)
  | name => return (venue, some (← (Key.ofName name).mapError .breakdown))

/-- Files a row with the holdings before it. -/
def file (table : List (Holder × ν)) (row : Row ν) : Except Fault (List (Holder × ν)) := do
  addHolding table (← row.holder) row.amount

/-- Plans for holdings as they were written. The shares are checked before the rows are. -/
def computeRows (rows : List (Row ν)) (targets : List LiquidityTarget) :
    Engine ν (List LiquidityMove) := do
  Engine.ofExcept (checkShares targets)
  announce (← Engine.ofExcept (rows.foldlM file [])) targets

/-- Carries out one move and gives the amount of it that was filled. -/
def applyMove (move : LiquidityMove) : Engine ν ν := do
  HaltSwitch.check
  Registry.require move.venue
  let amount : ν := ofInt move.amount
  let filled ← match move.direction with
    | .add => do
      let _ ← Trade.deposit move.venue (.text move.pool) amount none
      pure amount
    | .remove => do
      let (outA, _) ← Trade.withdraw move.venue (.text move.pool) amount
      pure outA
  Engine.log .info "REBALANCE_MOVE_APPLIED"
    [("venue", .text move.venue.name), ("pool", .text move.pool),
      ("direction", .text move.direction.name), ("requested", .int move.amount),
      ("filled", Quantity.toJson filled)]
  return filled

/-- Carries out the moves in order, each with what was filled of it. -/
def apply (moves : List LiquidityMove) : Engine ν (List (LiquidityMove × ν)) :=
  moves.mapM fun move => return (move, ← applyMove move)

/-- The holdings of the targets in a snapshot of balances; a target without a balance holds
    nothing. -/
def holdings (ctx : Context ν) (targets : List LiquidityTarget) : List (Holder × ν) :=
  targets.foldl
    (fun table target =>
      let account : Text := target.venue.name ++ ":" ++ target.pool
      let balance := (Table.get? account ctx.balances).getD 0
      Table.put (target.venue, some (.text target.pool)) (ofInt balance) table) []

/-- Plans the moves for a snapshot and, if asked to, carries them out. -/
def run (targets : List LiquidityTarget) (executes : Bool) (ctx : Context ν) :
    Engine ν (List LiquidityMove) := do
  HaltSwitch.check
  let found ← compute (holdings ctx targets) targets
  if executes then
    let _ : List (LiquidityMove × ν) ← apply found
  return found

end Rebalance

end TradingEngine
