import TradingEngine.Proofs.Strategy.Steps
import TradingEngine.Proofs.Strategy.Wellformed
import TradingEngine.Proofs.Venue.Repeat

/-! # The ledger of a run

The trades that a run reports can be made again, one after the other and directly at the venues,
from the world in which the run began. Each then pays what is reported of it, and in the end the
venues stand as the run has left them. So a run reports every fill, in the right order, and no
other, wherever it was cut off.

A trade is only recorded after the venue has filled it. Between the two nothing fails that would
still let the run report.
-/

namespace TradingEngine

open Engine Quantity

/-- Does at a venue what a trade of these blocks tells of, and gives what the venue pays for it. Of
    a removal it tells the amount of the first token; everything else is a swap. -/
def ExecutedTrade.repeated (blocks : List Block) (t : ExecutedTrade) : Engine Int Int := do
  match (blocks.find? (·.id == t.source)).bind (·.actionType) with
  | some .removeLiquidity => return (← Trade.withdraw t.venue (.text t.pool) t.amountIn).1
  | _ =>
    return (← Trade.swap t.venue (.text t.pool) (.text t.tokenIn) t.amountIn (some 0) 0).amountOut

namespace Ledger

/-- Makes trades again, one after the other, and gives what they pay. -/
def replay (blocks : List Block) (trades : List ExecutedTrade) : Engine Int (List Int) :=
  trades.mapM (·.repeated blocks)

variable {blocks : List Block} {trades : List ExecutedTrade} {t : ExecutedTrade}
  {w between after : World Int} {paid : List Int} {out : Int}

theorem replay_snoc (replayed : (replay blocks trades).result w = (.ok paid, between))
    (last : (t.repeated blocks).result between = (.ok out, after)) :
    (replay blocks (trades ++ [t])).result w = (.ok (paid ++ [out]), after) := by
  rw [replay, List.mapM_append, result_bind]
  rw [replay] at replayed
  rw [replayed]
  dsimp only
  rw [result_bind, List.mapM_cons, List.mapM_nil, result_bind, last]
  rfl

/-- The record of a run that began in `first`: what it tells was replayed up to the world
    `replayed`. -/
structure Tells (blocks : List Block) (first : World Int) (s : RunState) (replayed : World Int) :
    Prop where
  sources : s.executedBlockIds = s.trades.map (·.source)
  paid : (replay blocks s.trades).result first = (.ok (s.trades.map (·.amountOut)), replayed)

/-- The record tells all that has happened at the venues. -/
def Complete (blocks : List Block) (first : World Int) (m : Machine Int) : Prop :=
  ∃ replayed, Tells blocks first m.state replayed ∧ m.world.Journalled replayed ∧ m.world.AllPaper

/-- The record lacks this trade, which was filled last. -/
def Lacks (t : ExecutedTrade) (blocks : List Block) (first : World Int) (m : Machine Int) : Prop :=
  ∃ replayed filled, Tells blocks first m.state replayed ∧
    (t.repeated blocks).result replayed = (.ok t.amountOut, filled) ∧
      m.world.Journalled filled ∧ m.world.AllPaper

variable {first world : World Int} {m last : Machine Int} {venue : VenueKind} {pool token : Text}
  {amount : Int}

theorem Complete.booked (complete : Complete blocks first m) (h : m.Booked last) :
    Complete blocks first last := by
  obtain ⟨replayed, ⟨sources, paid⟩, same, paper⟩ := complete
  refine ⟨replayed, ⟨?_, ?_⟩, Frame.trans h.world.symm same, paper.of_venues h.world.venues⟩
  · rw [h.executed, h.trades, sources]
  · rw [h.trades, paid]

/-- The record is complete again once the trade that it lacks is noted. -/
theorem Lacks.recorded (lacks : Lacks t blocks first m) :
    Complete blocks first { m with state := m.state.recordAction t.source t } := by
  obtain ⟨replayed, filled, ⟨sources, paid⟩, made, same, paper⟩ := lacks
  refine ⟨filled, ⟨?_, ?_⟩, same, paper⟩
  · simp only [RunState.recordAction, sources, List.map_append, List.map_cons, List.map_nil]
  · simp only [RunState.recordAction, List.map_append, List.map_cons, List.map_nil]
    exact replay_snoc paid made

/-- A call that was refused leaves the record complete. -/
theorem Complete.refused {α : Type} {op : Engine Int α} {e : Failure}
    (complete : Complete blocks first m) (refuses : m.world.AllPaper → Refuses m.world op)
    (failed : op.result m.world = (.error (.failure e), world)) :
    Complete blocks first { m with world } := by
  obtain ⟨_, _, _, paper⟩ := complete
  exact Complete.booked ⟨_, ‹_›, ‹_›, paper⟩ ⟨refuses paper e world failed, rfl, rfl⟩

theorem Complete.swapped {least slippage gain now : Int} {block : Text} {fill : Fill}
    (complete : Complete blocks first m)
    (exchange : (blocks.find? (·.id == block)).bind (·.actionType) = some .swap)
    (filled : (Trade.swap venue (.text pool) (.text token) amount (some least) slippage).result
      m.world = (.ok fill, world)) :
    Lacks ⟨block, venue, pool, token, amount, fill.amountOut, gain, now⟩ blocks first
      { m with world } := by
  obtain ⟨replayed, tells, same, paper⟩ := complete
  obtain ⟨again, made, same⟩ := Trade.swap_again paper same filled
  have still := Trade.swap_paper paper venue (.text pool) (.text token) amount (some least) slippage
  rw [filled] at still
  refine ⟨replayed, again, tells, ?_, same, still⟩
  simp only [ExecutedTrade.repeated, exchange]
  rw [result_bind, made]
  rfl

theorem Complete.withdrawn {now : Int} {block : Text} {outs : Int × Int}
    (complete : Complete blocks first m)
    (removal : (blocks.find? (·.id == block)).bind (·.actionType) = some .removeLiquidity)
    (paid : (Trade.withdraw venue (.text pool) amount).result m.world = (.ok outs, world)) :
    Lacks ⟨block, venue, pool, pool, amount, outs.1, 0, now⟩ blocks first { m with world } := by
  obtain ⟨replayed, tells, same, paper⟩ := complete
  obtain ⟨again, made, same⟩ := Trade.withdraw_again paper same paid
  have still := Trade.withdraw_paper paper venue (.text pool) amount
  rw [paid] at still
  refine ⟨replayed, again, tells, ?_, same, still⟩
  simp only [ExecutedTrade.repeated, removal]
  rw [result_bind, made]
  rfl

end Ledger

namespace Run

open Ledger

variable {blocks : List Block} {first : World Int} {ctx : Context Int} {block : Text}

/-- Wherever a run stops that reports, its record is complete. -/
def CutOff (blocks : List Block) (first : World Int) (stop : Stop) (m : Machine Int) : Prop :=
  stop.Reported → Complete blocks first m

theorem Within.complete {α : Type} {step : Run Int α} (h : Within Machine.Booked step) :
    Ensures (Complete blocks first) step (fun _ => Complete blocks first) (CutOff blocks first) :=
  h.ensures (fun _ _ booked complete => complete.booked booked)
    fun _ _ _ _ booked complete _ => complete.booked booked

/-- A call that either fills or is refused. What comes after a fill is up to what follows. -/
theorem ensures_trade {α : Type} {op : Engine Int α} {Q : α → Machine Int → Prop}
    (refuses : ∀ w : World Int, w.AllPaper → Refuses w op)
    (filled : ∀ a m world, Complete blocks first m → op.result m.world = (.ok a, world) →
      Q a { m with world }) :
    Ensures (Complete blocks first) (ofEngine op) Q (CutOff blocks first) := by
  refine ensures_ofEngine filled fun f m world complete failed reported => ?_
  cases f with
  | failure e => exact complete.refused (refuses m.world) failed
  | refused | breakdown => exact reported.elim

theorem record_completes (t : ExecutedTrade) :
    Ensures (Lacks t blocks first) (record t.source t) (fun _ => Complete blocks first)
      (CutOff blocks first) := by
  refine ensures_bind (Q := fun _ => Complete blocks first)
    (ensures_update fun _ lacks => lacks.recorded) fun _ => ?_
  exact (within_bind (log_booked _ _ _) fun _ =>
    (within_ofEngine (count_noted _)).booked).complete

theorem swap_complete (venue : VenueKind) (pool token : Text) (amount slippage : Int)
    (minimumOut : Option Int)
    (exchange : (blocks.find? (·.id == block)).bind (·.actionType) = some .swap) :
    Ensures (Complete blocks first) (swap ctx block venue pool token amount slippage minimumOut)
      (fun _ => Complete blocks first) (CutOff blocks first) := by
  refine ensures_bind (preflight_quiet _ _ _).booked.complete fun _ => ?_
  refine ensures_bind (within_ofEngine (Registry.require_noted _)).booked.complete fun _ => ?_
  refine ensures_bind (within_ofEngine within_settings).booked.complete fun _ => ?_
  refine ensures_bind (within_ofExcept _).booked.complete fun allowed => ?_
  refine ensures_bind (within_ofEngine (Trade.quote_noted _ _ _ _)).booked.complete fun quoted => ?_
  let told (fill : Fill) : ExecutedTrade :=
    ⟨block, venue, pool, token, amount, fill.amountOut, fill.amountOut - quoted, ctx.now⟩
  have fromMinimum (least : Int) : Ensures (Complete blocks first)
      (swapFor ctx block venue pool token amount allowed quoted least)
      (fun _ => Complete blocks first) (CutOff blocks first) := by
    refine ensures_bind (Q := fun fill => Lacks (told fill) blocks first) ?_ fun fill => ?_
    · exact ensures_trade (fun w paper => Trade.swap_refuses paper _ _)
        fun fill m world complete filled => complete.swapped exchange filled
    · -- On whole numbers neither the gain nor the trade can fail to be put together.
      exact record_completes (told fill)
  cases minimumOut with
  | some least => exact ensures_bind (within_pure _).complete fromMinimum
  | none => exact ensures_bind (within_ofExcept _).booked.complete fromMinimum

theorem withdraw_complete (venue : VenueKind) (pool : Text) (amount : Int)
    (removal : (blocks.find? (·.id == block)).bind (·.actionType) = some .removeLiquidity) :
    Ensures (Complete blocks first) (withdraw ctx block venue pool amount)
      (fun _ => Complete blocks first) (CutOff blocks first) := by
  refine ensures_bind (preflight_quiet _ _ _).booked.complete fun _ => ?_
  refine ensures_bind (within_ofEngine (Registry.require_noted _)).booked.complete fun _ => ?_
  refine ensures_bind (Q := fun outs => Lacks ⟨block, venue, pool, pool, amount, outs.1, 0, ctx.now⟩
    blocks first) ?_ fun outs => ?_
  · exact ensures_trade (fun w paper => Trade.withdraw_refuses paper)
      fun outs m world complete paid => complete.withdrawn removal paid
  · exact record_completes ⟨block, venue, pool, pool, amount, outs.1, 0, ctx.now⟩

theorem perform_complete (options : RunOptions Int) {operation : Operation}
    (exchanges : operation.action? ≠ some .addLiquidity)
    (listed : ∀ type, operation.action? = some type →
      (blocks.find? (·.id == block)).bind (·.actionType) = some type) :
    Ensures (Complete blocks first) (perform options ctx block operation)
      (fun _ => Complete blocks first) (CutOff blocks first) := by
  cases operation with
  | swap venue pool token amount slippage minimumOut =>
      exact swap_complete _ _ _ _ _ _ (listed .swap rfl)
  | withdraw venue pool amount => exact withdraw_complete _ _ _ (listed .removeLiquidity rfl)
  | deposit venue pool amount amountB => exact absurd rfl exchanges
  | price | volume | time | balance | priceImpact | custom | loop | exitAfter | exitOnLoss
  | exitCustom =>
      exact (perform_quiet _ _ _ _ fun active => by cases active).booked.complete

end Run

namespace Interpreter

variable {options : RunOptions Int} {blocks : List Block} {ctx : Context Int} {w after : World Int}
  {outcome : RunReport}

theorem steps_complete (options : RunOptions Int) (ctx : Context Int) (w : World Int)
    (maxIterations : Int)
    (exchanges : ∀ b ∈ blocks, b.type = .action → b.actionType ≠ some .addLiquidity) :
    Run.Ensures (Ledger.Complete blocks w) (steps options blocks ctx maxIterations)
      (fun _ => Ledger.Complete blocks w) (Run.CutOff blocks w) := by
  refine ensures_steps (fun _ _ complete _ _ => complete) fun program read i member => ?_
  refine ⟨fun _ => ?_, fun _ => (Run.announce_booked i).complete,
    fun _ _ _ _ => (Run.startIteration_booked i.id).complete.strengthen fun _ held => held.1⟩
  obtain ⟨b, among, found, reads⟩ := Program.block_of_mem read member
  refine Run.ensures_bind (Run.announce_booked i).complete fun _ => ?_
  refine Run.perform_complete options (fun deposits => ?_) fun type acts => ?_
  · obtain ⟨active, type⟩ := Block.action_of_operation? reads deposits
    exact exchanges b among active type
  · rw [found, Option.bind_some]
    exact (Block.action_of_operation? reads acts).2

/-- The trades of a run, whether it was completed, exited or aborted, are those of its executed
    blocks. Made again directly at the venues, from the world in which the run began, each of them
    pays what was reported, and they lead to the venues that the run has left. -/
theorem trades_replay (paper : w.AllPaper)
    (exchanges : ∀ b ∈ blocks, b.type = .action → b.actionType ≠ some .addLiquidity)
    (ran : (run options blocks ctx).result w = (.ok outcome, after)) :
    outcome.state.executedBlockIds = outcome.state.trades.map (·.source) ∧
    ∃ replayed, (Ledger.replay blocks outcome.state.trades).result w =
      (.ok (outcome.state.trades.map (·.amountOut)), replayed) ∧
        replayed.venues = after.venues := by
  obtain ⟨ended, machine, taken, reported⟩ := of_run ran
  have steps := steps_complete options ctx w w.settings.maxLoopIterations exchanges
  have begins : Ledger.Complete blocks w ⟨w, {}⟩ := ⟨w, ⟨rfl, rfl⟩, Frame.refl w, paper⟩
  have complete : Ledger.Complete blocks w machine := by
    cases ended with
    | ok _ => exact steps.done begins taken
    | error stop => exact steps.stopped begins taken (reported_of_report_ok reported)
  have noted := report_noted ended machine.state machine.world
  rw [reported] at noted
  obtain ⟨replayed, ⟨sources, paid⟩, same, _⟩ := complete
  rw [state_of_report_ok reported]
  exact ⟨sources, replayed, paid, same.venues.trans noted.venues.symm⟩

end Interpreter

/-- Two venues with a pool each. -/
def marketWorld : World Int :=
  let pool : Pool Int :=
    { tokenA := .text "A", tokenB := .text "B", reserveA := 1000, reserveB := 4000, feeBps := 30
      lpSupply := 1000 }
  { settings := .standard
    journal := { threshold := 60 }
    venues := [(.raydium, .paper { kind := .raydium, pools := [(.text "A-B", pool)] }),
      (.jupiter, .paper { kind := .jupiter, pools := [(.text "A-B", pool)] })] }

/-- Sells on one venue and withdraws from the other, over and over, and leaves in between once two
    blocks have been executed. -/
def marketBlocks : List Block :=
  [{ id := "sell", type := .action, actionType := some .swap,
     parameters := { venue := some .raydium, pool := some "A-B", token := some "A",
                     amount := some 100, slippageBps := some 100 } },
   { id := "leave", type := .exit, exitType := some .blocksExecuted,
     parameters := { exitAfterBlocks := some 2 } },
   { id := "withdraw", type := .action, actionType := some .removeLiquidity,
     parameters := { venue := some .jupiter, pool := some "A-B", amount := some 50 } },
   { id := "again", type := .loop,
     parameters := { loopStart := some "sell", loopEnd := some "withdraw",
                     maxIterations := some 3 } }]

/-- A caller that may trade 100. -/
def marketContext : Context Int :=
  { oracle := { now := 0 }, risk := { maxTradeSize := 100, dailyLossLimit := 0 }, metrics := .none,
    now := 0 }

/-- The run as it is cut off by the exit. -/
def marketRun : Except Fault RunReport × World Int :=
  (Interpreter.run ⟨⟨0, 0⟩, 0⟩ marketBlocks marketContext).result marketWorld

theorem marketWorld_allPaper : marketWorld.AllPaper := by
  intro kind venue found
  have member := Table.mem_of_get? found
  simp only [marketWorld, List.mem_cons, Prod.mk.injEq, List.not_mem_nil, or_false] at member
  rcases member with ⟨_, rfl⟩ | ⟨_, rfl⟩ <;> exact ⟨_, rfl⟩

set_option maxRecDepth 10000 in
theorem Interpreter.marketRun_replays :
    ∃ outcome replayed, marketRun.1 = .ok outcome ∧ outcome.status = .exited ∧
      outcome.state.trades.map (·.source) = (["sell", "withdraw", "sell"] : List Text) ∧
      (Ledger.replay marketBlocks outcome.state.trades).result marketWorld =
        (.ok (outcome.state.trades.map (·.amountOut)), replayed) ∧
      replayed.venues = marketRun.2.venues := by
  have exits : marketRun.1.toOption.map (fun o => (o.status, o.state.executedBlockIds)) =
      some (.exited, (["sell", "withdraw", "sell"] : List Text)) := by
    decide +kernel
  obtain ⟨outcome, returned, told⟩ := Option.map_eq_some_iff.mp exits
  have ended := Except.of_toOption returned
  have ran : (run ⟨⟨0, 0⟩, 0⟩ marketBlocks marketContext).result marketWorld =
      (.ok outcome, marketRun.2) := Prod.ext ended rfl
  obtain ⟨sources, replayed, paid, same⟩ := trades_replay marketWorld_allPaper (by decide) ran
  obtain ⟨exited, executed⟩ := Prod.mk.inj told
  exact ⟨outcome, replayed, ended, exited, sources ▸ executed, paid, same⟩

end TradingEngine
