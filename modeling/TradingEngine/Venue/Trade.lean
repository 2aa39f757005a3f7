import TradingEngine.HaltSwitch

/-! # Trading at registered venues

The registry's operations and the calls that a venue answers: a quote, a swap, a deposit and a
withdrawal. Everything but a quote is refused while trading is halted. A call either fills or ends
in a fault.
-/

namespace TradingEngine

variable {ν : Type} [Quantity ν]

open Quantity

namespace ScriptedVenue

/-- A scripted venue of a kind, as it is announced. -/
def launch (kind : VenueKind) : Engine ν (ScriptedVenue ν) := do
  Engine.log .info "MOCK_VENUE_INITIALIZED" [("venue", .text kind.name)]
  return { kind, haircutBps := ofInt 0 }

/-- The venue with this rate for selling a token in a pool. -/
def withRate (pool token : Name) (numerator denominator : ν) (v : ScriptedVenue ν) :
    Except Fault (ScriptedVenue ν) :=
  return { v with rates := Table.put (← rateKey pool token) (numerator, denominator) v.rates }

def announceRate (pool token : Name) (numerator denominator : ν) : Engine ν Unit := do
  let above ← Engine.ofExcept (toJson numerator).inWords
  let below ← Engine.ofExcept (toJson denominator).inWords
  Engine.log .info "MOCK_VENUE_RATE_SET"
    [("pool", pool), ("token_in", token), ("rate", .text (above ++ "/" ++ below))]

end ScriptedVenue

/-- A paper venue with these pools, as it is announced. -/
def PaperVenue.launch (kind : VenueKind) (table : PoolTable ν) : Engine ν (PaperVenue ν) := do
  Engine.log .info "POOL_VENUE_INITIALIZED"
    [("venue", .text kind.name), ("pools", .list table.names)]
  return { table with kind }

namespace Registry

/-- The name of a venue's adapter. -/
def adapterName : Venue ν → String
  | .paper _ | .loose _ => "ConstantProductVenue"
  | .scripted _ => "MockVenue"

/-- Replaces the venue under a kind, or adds it. -/
def store (kind : VenueKind) (venue : Venue ν) : Engine ν Unit :=
  modify fun w => { w with venues := Table.put kind venue w.venues }

/-- Registers a venue; one that was registered under the kind gives way to it. -/
def register (kind : VenueKind) (venue : Venue ν) : Engine ν Unit := do
  store kind venue
  Engine.log .info "VENUE_REGISTERED"
    [("venue", .text kind.name), ("adapter", .text (adapterName venue))]

/-- The venue under a kind. `shown` is how the kind is named if there is none. -/
def find (kind : VenueKind) (shown : Text) : Engine ν (Venue ν) := do
  match Table.get? kind (← get).venues with
  | some venue => return venue
  | none => Engine.fail (.noVenue shown)

/-- Refuses where no venue is registered under the kind. -/
def require (kind : VenueKind) : Engine ν Unit := do
  let _ ← find kind kind.shown

/-- The kind that a name means, under which a venue has to be registered. -/
def named (name : Name) : Engine ν VenueKind := do
  let shown ← Engine.ofExcept name.inWords
  match name.string?.bind VenueKind.ofName? with
  | some kind =>
    let _ ← find kind shown
    return kind
  | none => Engine.fail (.noVenue shown)

/-- Whether a name means a registered venue. -/
def holds (w : World ν) (name : Name) : Bool :=
  match name.string?.bind VenueKind.ofName? with
  | some kind => (Table.get? kind w.venues).isSome
  | none => false

end Registry

namespace Trade

/-- Takes a step on a pool of the paper venue under `kind`. What the step has written stays written
    if it fails. -/
def onPool {α : Type} (kind : VenueKind) (v : PaperVenue ν) (pool : Name) (step : PoolStep ν α) :
    Engine ν α := do
  let key ← Engine.ofBreakdown (Key.ofName pool)
  let reserves ← Engine.ofExcept (v.pool pool)
  let (outcome, after) := step.run.run reserves
  Registry.store kind (.paper { v with pools := Table.put key after v.pools })
  Engine.ofExcept outcome

/-- Takes a step on a pool of the loose venue under `kind`. What the step has written stays written
    if it fails. -/
def onLoose {α : Type} (kind : VenueKind) (v : LooseVenue) (pool : Name)
    (step : LooseRecord → Except Fault α × LooseRecord) : Engine ν α := do
  let key ← Engine.ofBreakdown (Key.ofName pool)
  let (outcome, after) := step (← Engine.ofExcept (v.pool pool))
  Registry.store kind (.loose { v with pools := Table.put key after v.pools })
  Engine.ofExcept outcome

/-- What stands in front of every call that a scripted venue executes: the halt switch, and the
    breakdown that the venue may have been told to have. -/
def scriptedCall (kind : VenueKind) (v : ScriptedVenue ν) : Engine ν Unit := do
  if ← HaltSwitch.isActive then
    Engine.count .haltTriggered
    Engine.log .warning "MOCK_VENUE_BLOCKED_BY_KILL_SWITCH" [("venue", .text v.kind.name)]
    Engine.fail .halted
  if v.failsNext then
    Registry.store kind (.scripted { v with failsNext := false })
    Engine.log .error "MOCK_VENUE_FORCED_FAILURE" [("venue", .text v.kind.name)]
    Engine.fault (.breakdown .forced)

/-- Records a call of the scripted venue under `kind`. -/
def recordCall (kind : VenueKind) (v : ScriptedVenue ν) (call : VenueCall ν) : Engine ν Unit :=
  Registry.store kind (.scripted { v with calls := v.calls ++ [call] })

/-- What the venue under `kind` expects to pay, without executing anything. -/
def quote (kind : VenueKind) (pool token : Name) (amountIn : ν) : Engine ν ν := do
  match ← Registry.find kind kind.shown with
  | .paper v => Engine.ofExcept (v.quote pool token amountIn)
  | .loose v => Engine.ofExcept (v.quote pool token (toJson amountIn) >>= ofJson)
  | .scripted v => Engine.ofExcept (v.quote pool token amountIn)

/-- Journals a swap in a pool and gives its fill. -/
def filled (venue : VenueKind) (pool token : Name) (amountIn amountOut : ν) : Engine ν Fill := do
  Engine.log .info "POOL_SWAP_FILLED"
    [("venue", .text venue.name), ("pool", pool), ("token_in", token),
      ("amount_in", toJson amountIn), ("amount_out", toJson amountOut)]
  Engine.ofExcept (Fill.ofQuantities amountIn amountOut)

/-- Swaps at the venue under `kind`. Without a minimum the venue's own quote less the slippage is
    the least output. -/
def swap (kind : VenueKind) (pool token : Name) (amountIn : ν) (minimumOut : Option ν)
    (slippageBps : ν) : Engine ν Fill := do
  match ← Registry.find kind kind.shown with
  | .paper v =>
    HaltSwitch.check
    let _ ← Engine.ofExcept (Guard.slippage (← Engine.settings) slippageBps)
    let amountOut ← onPool kind v pool (PoolStep.swap token amountIn minimumOut slippageBps)
    filled v.kind pool token amountIn amountOut
  | .loose v =>
    HaltSwitch.check
    let _ ← Engine.ofExcept (Guard.slippage (← Engine.settings) slippageBps)
    let amountOut ← onLoose kind v pool (LooseRecord.swap token (toJson amountIn)
      (minimumOut.map toJson) (toJson slippageBps))
    filled v.kind pool token amountIn (← Engine.ofExcept (ofJson amountOut))
  | .scripted v =>
    scriptedCall kind v
    let quoted ← Engine.ofExcept (v.quote pool token amountIn)
    let amountOut ← Engine.ofExcept (v.paid quoted)
    let minimum ← match minimumOut with
      | some least => pure least
      | none => Engine.ofExcept (ConstantProduct.haircut quoted slippageBps)
    let _ ← Engine.ofExcept (Guard.minimumOut amountOut minimum)
    recordCall kind v (.swap pool token amountIn minimum slippageBps amountOut)
    Engine.ofExcept (Fill.ofQuantities amountIn amountOut)

def deposited (venue : VenueKind) (pool : Name) (amountA amountB minted : Json) :
    Engine ν Unit :=
  Engine.log .info "POOL_LIQUIDITY_ADDED"
    [("venue", .text venue.name), ("pool", pool), ("amount_a", amountA), ("amount_b", amountB),
      ("minted", minted)]

/-- Deposits at the venue under `kind` and gives the shares minted. -/
def deposit (kind : VenueKind) (pool : Name) (amountA : ν) (amountB : Option ν) :
    Engine ν ν := do
  match ← Registry.find kind kind.shown with
  | .paper v =>
    HaltSwitch.check
    let done ← onPool kind v pool (PoolStep.deposit pool amountA amountB)
    deposited v.kind pool (toJson amountA) (toJson done.amountB) (toJson done.minted)
    return done.minted
  | .loose v =>
    HaltSwitch.check
    let done ← onLoose kind v pool (LooseRecord.deposit pool (toJson amountA)
      (amountB.map toJson))
    deposited v.kind pool (toJson amountA) done.amountB done.minted
    Engine.ofExcept (ofJson done.minted)
  | .scripted v =>
    scriptedCall kind v
    recordCall kind v (.deposit pool amountA amountB)
    return amountA

def withdrawn (venue : VenueKind) (pool : Name) (burned outA outB : Json) : Engine ν Unit :=
  Engine.log .info "POOL_LIQUIDITY_REMOVED"
    [("venue", .text venue.name), ("pool", pool), ("burned", burned), ("amount_a", outA),
      ("amount_b", outB)]

/-- Withdraws at the venue under `kind` and gives what was paid out of both reserves. -/
def withdraw (kind : VenueKind) (pool : Name) (amountA : ν) : Engine ν (ν × ν) := do
  match ← Registry.find kind kind.shown with
  | .paper v =>
    HaltSwitch.check
    let done ← onPool kind v pool (PoolStep.withdraw amountA)
    withdrawn v.kind pool (toJson done.burned) (toJson done.outA) (toJson done.outB)
    return (done.outA, done.outB)
  | .loose v =>
    HaltSwitch.check
    let done ← onLoose kind v pool (LooseRecord.withdraw (toJson amountA))
    withdrawn v.kind pool done.burned done.outA done.outB
    return (← Engine.ofExcept (ofJson done.outA), ← Engine.ofExcept (ofJson done.outB))
  | .scripted v =>
    scriptedCall kind v
    recordCall kind v (.withdraw pool amountA)
    return (amountA, ofInt 0)

end Trade

end TradingEngine
