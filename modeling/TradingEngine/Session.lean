import TradingEngine.Record.Context
import TradingEngine.Strategy.Interpreter
import TradingEngine.Strategy.Watch
import TradingEngine.Venue.Upkeep

/-! # Sessions

A session is what an operator works in step by step: a world, what is known of prices, the written
fields from which the context of every step is read anew, and the strategies and totals kept along
the way. A step that fails keeps what it had changed.
-/

namespace TradingEngine

/-- What the steps of a session share. -/
structure Session (ν : Type) where
  world : World ν
  oracle : Oracle ν
  /-- The fields of the context as they were written. -/
  fields : Fields := []
  watches : List (Text × Watch ν) := []
  /-- The totals as the last step left them; no totals while the written ones count. -/
  metrics : Option (Metrics ν) := none
  /-- The pools of the context that are not read from records. -/
  pools : List (Text × PoolSource ν) := []
  strategies : List (Key × NamedStrategy ν) := []
  /-- The outcome of the last run. -/
  outcome : Option RunReport := none

abbrev Step (ν α : Type) := ExceptT Fault (StateM (Session ν)) α

/-- A copy of a pool that was read where it stood, for the time when the venue under `kind` is no
    longer there. -/
def PoolSource.detached {ν : Type} (kind : VenueKind) (old : Venue ν) :
    PoolSource ν → PoolSource ν
  | .live venue pool =>
    if venue = kind then (inVenue? pool old).getD (.live venue pool) else .live venue pool
  | source => source

namespace Session

variable {ν : Type} [Quantity ν]

/-- Takes an operation of the engine as a step. -/
def perform {ν α : Type} (op : Engine ν α) : Step ν α :=
  ExceptT.mk fun s =>
    let (ended, world) := op.result s.world
    (ended, { s with world })

def ofExcept {ν α : Type} (r : Except Fault α) : Step ν α := perform (Engine.ofExcept r)

/-- Whether a pool of the context is to be read where it stands. -/
def isReference (j : Json) : Bool := (j.field? "venue").isSome

/-- The pools among these that are to be read where they stand. -/
def references (pools : Json) : Engine ν (List (Text × PoolSource ν)) :=
  (pools.fields.filter fun row => isReference row.2).mapM fun (name, j) => do
    let (venue, pool) ←
      Registry.poolOf ((j.field? "venue").getD .null) ((j.field? "pool").getD .null)
    return (name, .live venue pool)

/-- The pools among these that are records. -/
def records : Json → Json
  | .record rows => .record (rows.filter fun row => !isReference row.2)
  | other => other

/-- Writes a field of the context. Written totals count from then on. -/
def setField (name : Text) (value : Json) : Step ν Unit := do
  if name = "pools" then
    let pools ← perform (references value)
    modify fun s => { s with pools, fields := Json.put "pools" (records value) s.fields }
  else
    if name = "metrics" then modify ({ · with metrics := none })
    modify fun s => { s with fields := Json.put name value s.fields }

/-- The parts of a context that are no fields of it. -/
def reserved : List Text := ["oracle", "venues"]

/-- The context as it stands. It cannot be made of fields that stand for its other parts. -/
def context : Step ν (Context ν) := do
  let s ← get
  if s.fields.any (reserved.contains ·.1) then throw (.breakdown .wrongType)
  let kept : Context.Kept ν :=
    { oracle := s.oracle, metrics := s.metrics, pools := s.pools
      predicates := s.watches.map fun (name, watch) => (name, watch.predicate) }
  ofExcept ((Context.decode .caller s.world.clock kept s.fields).orFault .context)

/-- Keeps new totals for the contexts to come. -/
def keepMetrics {ν : Type} (m : Metrics ν) : Step ν (Metrics ν) := do
  modify ({ · with metrics := some m })
  return m

/-- Counts a result toward the totals. -/
def record (profitLoss : ν) : Step ν (Metrics ν) := do
  let ctx ← context
  keepMetrics (← perform (ctx.metrics.record profitLoss))

/-- Registers a venue. The context keeps the pools of one that gives way as they were. -/
def register {ν : Type} (kind : VenueKind) (venue : Venue ν) : Step ν Unit := do
  let before := (← get).world.venues
  perform (Registry.register kind venue)
  if let some old := Table.get? kind before then
    modify fun s =>
      { s with pools := s.pools.map fun (name, source) => (name, source.detached kind old) }

/-- The key under which a strategy is kept. -/
def strategyKey {ν : Type} (name : Name) : Step ν Key :=
  ofExcept ((Key.ofName name).mapError .breakdown)

def strategy {ν : Type} (name : Name) : Step ν (NamedStrategy ν) := do
  let key ← strategyKey name
  match Table.get? key (← get).strategies with
  | some s => return s
  | none => throw (.breakdown .absentKey)

/-- Keeps a strategy in the place of one of the same name. -/
def keepStrategy {ν : Type} (strategy : NamedStrategy ν) : Step ν Unit := do
  let key ← strategyKey strategy.name
  modify fun s => { s with strategies := Table.put key strategy s.strategies }

/-- Makes a run and keeps its outcome. A run that ends in a fault leaves none. -/
def keepOutcome (run : Context ν → Engine ν RunReport) : Step ν RunReport := do
  modify ({ · with outcome := none })
  let ctx ← context
  let outcome ← perform (run ctx)
  modify ({ · with outcome := some outcome })
  return outcome

def runStrategy (name : Name) : Step ν RunReport := do
  modify ({ · with outcome := none })
  let s ← strategy name
  keepOutcome s.run

/-- The status of the last run, or the failure that aborted it. -/
def lastStatus {ν : Type} : Step ν (Option RunStatus) := do
  match (← get).outcome with
  | none => return none
  | some outcome =>
    match outcome.error with
    | some failure => throw (.failure failure)
    | none => return some outcome.status

/-- Folds the trades of the last run into the totals. -/
def settle : Step ν (Option (Metrics ν)) := do
  match (← get).outcome with
  | none => return none
  | some outcome =>
    let ctx ← context
    return some (← keepMetrics (← perform (outcome.settle ctx.metrics)))

end Session

end TradingEngine
