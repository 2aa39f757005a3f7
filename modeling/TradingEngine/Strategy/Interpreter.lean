import TradingEngine.Strategy.Context
import TradingEngine.Strategy.Program
import TradingEngine.Venue.Trade

/-! # Running a program

A single cursor moves forward over the program. A trigger or a condition that is not satisfied
aborts the run, an action trades, a loop repeats blocks that stand before it, and an exit may end
the run. Loop counters are never reset: a loop that is reached again inside another loop only makes
the iterations that its budget still allows. Since a loop repeats earlier blocks only, the position
is the measure by which every run ends.
-/

namespace TradingEngine

/-- Why a run stopped before the end of its program. -/
inductive Stop where
  | finished (status : RunStatus) (reason : Text)
  | fault (f : Fault)

/-- The world and the state of the run. -/
structure Machine (ν : Type) where
  world : World ν
  state : RunState := {}

abbrev Run (ν α : Type) := ExceptT Stop (StateM (Machine ν)) α

/-- How a run ended. -/
structure RunReport where
  status : RunStatus
  state : RunState
  error : Option Failure := none
  reason : Option Text := none
  deriving BEq, Repr

/-- How prices are judged in a run. -/
structure RunOptions (ν : Type) where
  limits : PriceLimits ν
  priceEqualTolerance : ν
  deriving DecidableEq, Repr

open Quantity

variable {ν : Type} [Quantity ν]

/-- The options with these limits. The settings give the tolerance where a caller gives none. -/
def RunOptions.ofLimits (s : Settings ν) (tolerance : Option ν) (limits : PriceLimits ν) :
    Except Fault (RunOptions ν) :=
  return ⟨limits, ← orHeld tolerance s.priceEqualTolerance⟩

namespace Run

/-- An operation on the world as a step of a run. -/
def ofEngine {α : Type} (op : Engine ν α) : Run ν α :=
  ExceptT.mk fun m =>
    let (ended, world) := op.result m.world
    (ended.mapError Stop.fault, { m with world })

/-- A computation that touches nothing. -/
def ofExcept {α : Type} (result : Except Fault α) : Run ν α := ofEngine (Engine.ofExcept result)

/-- Ends the run with a refusal. -/
def fail {α : Type} (cause : Cause) : Run ν α := ofEngine (Engine.fail cause)

/-- Ends the run with a status of its own. -/
def finish {α : Type} (status : RunStatus) (reason : Text) : Run ν α :=
  throw (.finished status reason)

def state : Run ν RunState := return (← get).state

def update (f : RunState → RunState) : Run ν Unit := modify fun m => { m with state := f m.state }

def log (level : Level) (event : Text) (fields : Fields) : Run ν Unit :=
  ofEngine (Engine.log level event fields)

def times (n : Nat) (step : Run ν Unit) : Run ν Unit :=
  match n with
  | 0 => pure ()
  | n + 1 => do
    step
    times n step

/-- The outcome of a caller's predicate. -/
def test (ctx : Context ν) (name : Text) : Run ν Bool := do
  let predicate ← ofExcept (ctx.predicate name)
  let m ← get
  ofExcept (predicate ctx.toSnapshot m.world.venues m.state)

/-- Whether a price satisfies a trigger. -/
def satisfies (tolerance : ν) (condition : PriceComparison) (price threshold : Int) :
    Except Fault Bool :=
  match condition with
  | .above => .ok (price > threshold)
  | .below => .ok (price < threshold)
  | .equal => lt (ofInt (price - threshold).natAbs) tolerance

/-- Goes on after a satisfied trigger and aborts at another. -/
def trigger (block : Text) (type : TriggerType) (satisfied : Bool) (reading : Reading) :
    Run ν Unit := do
  if !satisfied then fail (.triggerUnsatisfied block reading)
  log .info "TRIGGER_SATISFIED"
    (("block_id", .text block) :: ("trigger_type", .text type.name) :: reading.fields)

/-- Goes on after a met condition and aborts at another. -/
def condition (block : Text) (type : ConditionType) (satisfied : Bool) (reading : Reading) :
    Run ν Unit := do
  if !satisfied then fail (.conditionUnmet block reading)
  log .info "CONDITION_MET"
    (("block_id", .text block) :: ("condition_type", .text type.name) :: reading.fields)

/-- Ends the run if an exit's test holds. -/
def exit (block : Text) (type : ExitType) (holds : Bool) : Run ν Unit := do
  if holds then
    log .info "STRATEGY_EXIT" [("block_id", .text block), ("exit_type", .text type.name)]
    finish .exited ("exit:" ++ block)

/-- Takes the price that a price trigger compares. -/
def readPrice (options : RunOptions ν) (ctx : Context ν) (feed : Text)
    (twapPeriod : Option Int) : Run ν Int := do
  let now : ν := ofInt ctx.now
  let quote ← ofExcept (ctx.oracle.quote (.text feed))
  let spot ← ofEngine (quote.validate options.limits none none now)
  match twapPeriod with
  | none => return spot.quote.price
  | some seconds =>
    let period : ν := ofInt seconds
    let samples ← ofExcept (ctx.oracle.samples (.text feed) period now)
    ofExcept (Twap.mean samples period now)

/-- The impact of a trade on a pool of the context, in basis points. -/
def readImpact (ctx : Context ν) (pool token : Text) (amount : Int) : Run ν ν := do
  match Table.get? pool ctx.pools with
  | none => fail (.noSnapshot pool)
  | some source =>
    let reserves ← ofEngine (source.reserves (.text token))
    let (reserveIn, reserveOut) ← ofExcept (reserves.sides (.text token))
    let amountIn := ofInt amount
    let out ← ofExcept (ConstantProduct.swapOutput amountIn reserveIn reserveOut reserves.feeBps)
    ofExcept (ConstantProduct.priceImpactBps amountIn out reserveIn reserveOut)

/-- Stands in front of every action: trading must not be halted and the risk gate must allow the
    amount. Limits apply to the caller's totals plus what this run has already realised. -/
def preflight (ctx : Context ν) (block : Text) (amount : Int) : Run ν Unit := do
  ofEngine HaltSwitch.check
  let s ← state
  let total ← ofExcept (add ctx.metrics.totalProfitLoss (ofInt s.cumulativeProfitLoss))
  let projected := { ctx.metrics with totalProfitLoss := total }
  if !(← ofEngine (ctx.risk.allow projected (ofInt amount))) then
    log .warning "ACTION_REJECTED_BY_RISK" [("block_id", .text block), ("amount", .int amount)]
    finish .aborted "risk_rejected"

def record (block : Text) (result : ExecutedTrade) : Run ν Unit := do
  update (·.recordAction block result)
  log .info "ACTION_RECORDED"
    [("block_id", .text block), ("venue", .text result.venue.name),
      ("amount_in", .int result.amountIn), ("amount_out", .int result.amountOut)]
  ofEngine (Engine.count (.tradesExecuted .blocks))

/-- Swaps at a venue. The profit of a swap is what it paid beyond the quote. -/
def swap (ctx : Context ν) (block : Text) (venue : VenueKind) (pool token : Text)
    (amount slippageBps : Int) (minimumOut : Option Int) : Run ν Unit := do
  preflight ctx block amount
  ofEngine (Registry.require venue)
  let settings ← ofEngine Engine.settings
  let amountIn : ν := ofInt amount
  let slippage : ν ← ofExcept (Guard.slippage settings (ofInt slippageBps))
  let quoted ← ofEngine (Trade.quote venue (.text pool) (.text token) amountIn)
  let minimum ← match minimumOut with
    | some least => pure (ofInt least)
    | none => ofExcept (ConstantProduct.haircut quoted slippage)
  let fill ←
    ofEngine (Trade.swap venue (.text pool) (.text token) amountIn (some minimum) slippage)
  let amountOut : ν := ofInt fill.amountOut
  let gain ← ofExcept (sub amountOut quoted)
  let trade ← ofExcept
    (ExecutedTrade.ofQuantities block venue pool token amountIn amountOut gain ctx.now)
  record block trade

/-- The trade of an action that exchanges nothing: without profit, in the pool's own unit. -/
def unpriced (ctx : Context ν) (block : Text) (venue : VenueKind) (pool : Text)
    (amountIn amountOut : ν) : Except Fault ExecutedTrade :=
  ExecutedTrade.ofQuantities block venue pool pool amountIn amountOut (ofInt 0) ctx.now

def deposit (ctx : Context ν) (block : Text) (venue : VenueKind) (pool : Text) (amount : Int)
    (amountB : Option Int) : Run ν Unit := do
  preflight ctx block amount
  ofEngine (Registry.require venue)
  let amountA : ν := ofInt amount
  let minted ← ofEngine (Trade.deposit venue (.text pool) amountA (amountB.map ofInt))
  record block (← ofExcept (unpriced ctx block venue pool amountA minted))

def withdraw (ctx : Context ν) (block : Text) (venue : VenueKind) (pool : Text)
    (amount : Int) : Run ν Unit := do
  preflight ctx block amount
  ofEngine (Registry.require venue)
  let amountA : ν := ofInt amount
  let (outA, _) ← ofEngine (Trade.withdraw venue (.text pool) amountA)
  record block (← ofExcept (unpriced ctx block venue pool amountA outA))

/-- Carries out every operation but a loop. -/
def perform (options : RunOptions ν) (ctx : Context ν) (block : Text) :
    Operation → Run ν Unit
  | .price feed comparison threshold twapPeriod => do
    let price ← readPrice options ctx feed twapPeriod
    update (·.recordPrice feed price)
    let satisfied ←
      ofExcept (satisfies options.priceEqualTolerance comparison price threshold)
    trigger block .price satisfied (.price price threshold comparison)
  | .volume feed threshold => do
    match Table.get? feed ctx.volumes with
    | none => fail (.noVolume feed)
    | some volume => trigger block .volume (volume ≥ threshold) (.volume volume threshold)
  | .time notBefore notAfter =>
    trigger block .time
      (notBefore.all (ctx.now ≥ ·) && notAfter.all (ctx.now ≤ ·))
      (.time ctx.now notBefore notAfter)
  | .balance token minimum =>
    let balance := (Table.get? token ctx.balances).getD 0
    condition block .balance (balance ≥ minimum) (.balance balance minimum)
  | .priceImpact pool token amount maximumBps => do
    let impact ← readImpact ctx pool token amount
    let bounded ← ofExcept (le impact (ofInt maximumBps))
    condition block .priceImpact bounded (.impact (toJson impact) maximumBps)
  | .custom predicate => do
    condition block .custom (← test ctx predicate) (.predicate predicate)
  | .swap venue pool token amount slippageBps minimumOut =>
    swap ctx block venue pool token amount slippageBps minimumOut
  | .deposit venue pool amount amountB => deposit ctx block venue pool amount amountB
  | .withdraw venue pool amount => withdraw ctx block venue pool amount
  | .loop .. => pure ()
  | .exitAfter blocks => do
    exit block .blocksExecuted ((← state).executedBlockIds.length ≥ blocks)
  | .exitOnLoss maxLoss => do
    exit block .cumulativeLoss (-(← state).cumulativeProfitLoss > maxLoss)
  | .exitCustom predicate => do exit block .custom (← test ctx predicate)

def startIteration (block : Text) : Run ν Unit := do
  update (·.startIteration block)
  log .debug "LOOP_ITERATION"
    [("block_id", .text block), ("iteration", .int ((← state).iterations block))]

/-- Dispatches the block at a position. A loop makes the iterations that its budget still allows,
    each over the earlier blocks of its range. -/
def dispatch (options : RunOptions ν) (ctx : Context ν) (program : Program) (position : Nat) :
    Run ν Unit := do
  match program[position]? with
  | none => pure ()
  | some ⟨block, operation⟩ =>
    ofEngine (Engine.count (.blocksExecuted operation.type))
    log .debug "BLOCK_DISPATCH"
      [("block_id", .text block), ("block_type", .text operation.type.name)]
    match operation with
    | .loop first last budget =>
      let left := budget - (← state).iterations block
      times left.toNat do
        startIteration block
        (List.finRange position).forM fun earlier => do
          if first ≤ earlier.val && earlier.val ≤ last then
            dispatch options ctx program earlier.val
    | _ => perform options ctx block operation
termination_by position
decreasing_by exact earlier.isLt

def all (options : RunOptions ν) (ctx : Context ν) (program : Program) : Run ν Unit :=
  (List.range program.length).forM (dispatch options ctx program)

end Run

namespace Interpreter

def conclude (outcome : RunReport) : Engine ν RunReport := do
  Engine.count (.runsFinished outcome.status)
  Engine.log .info "STRATEGY_RUN_FINISHED"
    [("status", .text outcome.status.name), ("reason", .ofOption .text outcome.reason),
      ("executed_blocks", .int outcome.state.executedBlockIds.length),
      ("trades", .int outcome.state.trades.length)]
  return outcome

/-- Runs a block list. A refusal aborts the run and is part of its outcome; a breakdown is not
    handled. -/
def run (options : RunOptions ν) (blocks : List Block) (ctx : Context ν) :
    Engine ν RunReport := do
  let settings ← Engine.settings
  let body : Run ν Unit := do
    let program ← Run.ofExcept (Program.ofBlocks settings.maxLoopIterations blocks)
    Run.all options ctx program
  let (ended, machine) := body.run.run ⟨← get, {}⟩
  set machine.world
  let state := machine.state
  match ended with
  | .ok () => conclude { status := .completed, state }
  | .error (.finished status reason) => conclude { status, state, reason := some reason }
  | .error (.fault (.failure failure)) =>
    Engine.log .error "STRATEGY_RUN_ABORTED"
      [("code", .text failure.code), ("error", .text failure.message),
        ("executed_blocks", .int state.executedBlockIds.length)]
    conclude { status := .aborted, state, error := some failure, reason := some failure.code }
  | .error (.fault other) => Engine.fault other

end Interpreter

/-- A named block list that can be switched off. -/
structure NamedStrategy (ν : Type) where
  name : Name
  blocks : List Block
  /-- The switch as it was last set; the strategy is on if it counts as true. -/
  active : Json
  options : RunOptions ν
  deriving Repr

namespace NamedStrategy

/-- A strategy with the options that the settings give, as it is announced. -/
def launch (name : Name) (blocks : List Block) (active : Json) :
    Engine ν (NamedStrategy ν) := do
  let s ← Engine.settings
  let limits ← Engine.ofExcept (PriceLimits.ofSettings s none none)
  let options ← Engine.ofExcept (RunOptions.ofLimits s none limits)
  Engine.log .info "STRATEGY_INITIALIZED_Blocks"
    [("strategy_name", name), ("blocks", .int blocks.length)]
  return { name, blocks, active, options }

def toggle (active : Json) (s : NamedStrategy ν) : Engine ν (NamedStrategy ν) := do
  Engine.log .warning "STRATEGY_TOGGLED" [("strategy_name", s.name), ("is_active", active)]
  return { s with active }

/-- Runs a strategy that is switched on. From then on every journal entry names it. -/
def run (s : NamedStrategy ν) (ctx : Context ν) : Engine ν RunReport := do
  if !s.active.truthy then Engine.fail (.inactive s.name)
  HaltSwitch.check
  Engine.bindFields [("strategy", s.name)]
  let outcome ← Interpreter.run s.options s.blocks ctx
  match outcome.status, outcome.error with
  | .aborted, some failure =>
    Engine.log .critical "STRATEGY_ABORTED"
      [("strategy_name", s.name), ("reason", .text failure.code)]
  | _, _ => pure ()
  return outcome

end NamedStrategy

/-- Folds the trades of a run into the caller's totals. -/
def RunReport.settle (outcome : RunReport) (metrics : Metrics ν) : Engine ν (Metrics ν) :=
  metrics.recordAll (outcome.state.trades.map fun trade => ofInt trade.profitLoss)

end TradingEngine
