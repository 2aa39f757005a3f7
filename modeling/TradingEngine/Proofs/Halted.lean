import TradingEngine.Proofs.Strategy.Steps
import TradingEngine.Proofs.Strategy.Wellformed
import TradingEngine.Proofs.Wording
import TradingEngine.Strategy.Arbitrage
import TradingEngine.Strategy.Rebalance

/-! # While trading is halted

Everything that trades stands behind the halt switch, each operation behind a check of its own.
While the switch is on no venue changes, whatever is asked for and in whatever order, and nothing is
brought home. Only a run of a block list still does something: it looks at its triggers and
conditions, and it ends at the first action that it comes to.
-/

namespace TradingEngine

open Engine Quantity

variable {ν α β : Type}

namespace Engine

/-- The operation ends in a fault while trading is halted, and only the journal tells of it. -/
def Barred (op : Engine ν α) : Prop :=
  ∀ w, w.halt.isSome → ∃ f after, op.result w = (.error f, after) ∧ w.Journalled after

theorem barred_fail (cause : Cause) : Barred (fail cause : Engine ν α) :=
  fun w _ => ⟨_, w, rfl, Frame.refl w⟩

theorem barred_check : Barred (HaltSwitch.check : Engine ν Unit) := by
  intro w halted
  refine ⟨_, _, (HaltSwitch.result_check w).trans (if_pos halted), ?_⟩
  exact ⟨rfl, rfl, rfl, rfl, rfl, rfl⟩

/-- What stands behind a check is not reached. -/
theorem Barred.bind {op : Engine ν α} (h : Barred op) (next : α → Engine ν β) :
    Barred (op >>= next) := by
  intro w halted
  obtain ⟨f, after, ended, journalled⟩ := h w halted
  refine ⟨f, after, ?_, journalled⟩
  rw [result_bind, ended]

/-- A check may come after something that only takes notes. -/
theorem barred_bind {op : Engine ν α} {next : α → Engine ν β} (first : Within World.Noted op)
    (rest : ∀ a, Barred (next a)) : Barred (op >>= next) := by
  intro w halted
  have noted := (first w).journalled
  rw [result_bind]
  cases ended : op.result w with
  | mk r between =>
      rw [ended] at noted
      cases r with
      | error f => exact ⟨f, between, rfl, noted⟩
      | ok a =>
          have still : between.halt.isSome := by
            rw [noted.halt]
            exact halted
          obtain ⟨f, after, ended, journalled⟩ := rest a between still
          exact ⟨f, after, ended, Frame.trans noted journalled⟩

end Engine

/-! ### Calls on venues -/

namespace Trade

theorem scriptedCall_barred (kind : VenueKind) (v : ScriptedVenue ν) :
    Barred (scriptedCall kind v) := by
  intro w halted
  rw [scriptedCall, result_bind, HaltSwitch.result_isActive, halted]
  refine barred_bind (count_noted _) (fun _ => ?_) w halted
  exact barred_bind (log_noted _ _ _ (by decide)) fun _ => (barred_fail _).bind _

variable [Quantity ν]

theorem swap_barred (kind : VenueKind) (pool token : Name) (amountIn : ν) (minimumOut : Option ν)
    (slippageBps : ν) : Barred (swap kind pool token amountIn minimumOut slippageBps) := by
  refine barred_bind (Registry.find_noted _ _) fun venue => ?_
  cases venue with
  | paper v => exact barred_check.bind _
  | loose v => exact barred_check.bind _
  | scripted v => exact (scriptedCall_barred _ _).bind _

theorem deposit_barred (kind : VenueKind) (pool : Name) (amountA : ν) (amountB : Option ν) :
    Barred (deposit kind pool amountA amountB) := by
  refine barred_bind (Registry.find_noted _ _) fun venue => ?_
  cases venue with
  | paper v => exact barred_check.bind _
  | loose v => exact barred_check.bind _
  | scripted v => exact (scriptedCall_barred _ _).bind _

theorem withdraw_barred (kind : VenueKind) (pool : Name) (amountA : ν) :
    Barred (withdraw kind pool amountA) := by
  refine barred_bind (Registry.find_noted _ _) fun venue => ?_
  cases venue with
  | paper v => exact barred_check.bind _
  | loose v => exact barred_check.bind _
  | scripted v => exact (scriptedCall_barred _ _).bind _

end Trade

/-! ### Runs of block lists -/

namespace Run

/-- A run from `w` has dispatched these blocks and traded nothing. -/
structure Untraded (w : World ν) (shown : List Text) (m : Machine ν) : Prop where
  world : w.Journalled m.world
  executed : m.state.executedBlockIds = []
  trades : m.state.trades = []
  dispatches : m.world.journal.dispatches = w.journal.dispatches ++ shown

theorem Untraded.quiet {w : World ν} {shown : List Text} {m after : Machine ν}
    (h : Untraded w shown m) (quiet : m.Quiet after) : Untraded w shown after where
  world := Frame.trans h.world quiet.booked.world
  executed := quiet.executed.trans h.executed
  trades := quiet.trades.trans h.trades
  dispatches := quiet.world.dispatches.trans h.dispatches

/-- Whether an action of the block list is among these dispatches. -/
def Acts (blocks : List Block) (shown : List Text) : Prop :=
  ∃ b ∈ blocks, b.type = .action ∧ b.id ∈ shown

/-- How a run from `w` stands as long as it has come to no action. -/
def Waiting (w : World ν) (blocks : List Block) (m : Machine ν) : Prop :=
  ∃ shown, Untraded w shown m ∧ ¬Acts blocks shown

/-- How a run from `w` stops: at an action only because trading is halted. -/
def Barred (w : World ν) (blocks : List Block) (stop : Stop) (m : Machine ν) : Prop :=
  ∃ shown, Untraded w shown m ∧ (Acts blocks shown → stop = .fault Cause.halted.fault)

variable {w : World ν} {blocks : List Block}

theorem ensures_of_quiet {step : Run ν α} (quiet : Within Machine.Quiet step) :
    Ensures (Waiting w blocks) step (fun _ => Waiting w blocks) (Barred w blocks) := by
  refine quiet.ensures (fun m after related held => ?_) fun m after stop _ related held => ?_
  · obtain ⟨shown, untraded, waiting⟩ := held
    exact ⟨shown, untraded.quiet related, waiting⟩
  · obtain ⟨shown, untraded, waiting⟩ := held
    exact ⟨shown, untraded.quiet related, fun acts => absurd acts waiting⟩

/-- A block that is announced is among the dispatches, unless it could not be journalled. -/
theorem ensures_announce (i : Instruction) :
    Ensures (Waiting w blocks) (announce i)
      (fun _ m => ∃ shown, Untraded w (shown ++ [i.id]) m ∧ ¬Acts blocks shown)
      (Barred w blocks) := by
  refine ensures_bind (ensures_of_quiet (within_ofEngine (count_noted _))) fun _ => ?_
  refine ensures_log (fun m journal held written => ?_) fun m b held written => ?_
  · obtain ⟨shown, untraded, waiting⟩ := held
    have journalled : m.world.Journalled { m.world with journal } :=
      ⟨rfl, rfl, rfl, Journal.bound_write written, Journal.threshold_write written, rfl⟩
    refine ⟨shown, ⟨Frame.trans untraded.world journalled, untraded.executed, untraded.trades, ?_⟩,
      waiting⟩
    rw [Journal.dispatches_write_dispatch written, untraded.dispatches, List.append_assoc]
  · obtain ⟨shown, untraded, waiting⟩ := held
    exact ⟨shown, untraded, fun acts => absurd acts waiting⟩

theorem ensures_startIteration (block : Text) :
    Ensures (Waiting w blocks) (startIteration block : Run ν Unit) (fun _ => Waiting w blocks)
      (Barred w blocks) := by
  have started : Ensures (Waiting w blocks) (update (·.startIteration block) : Run ν Unit)
      (fun _ => Waiting w blocks) (Barred w blocks) := by
    refine ensures_update fun m held => ?_
    obtain ⟨shown, untraded, waiting⟩ := held
    exact ⟨shown, ⟨untraded.world, untraded.executed, untraded.trades, untraded.dispatches⟩,
      waiting⟩
  refine ensures_bind started fun _ => ?_
  refine ensures_of_quiet (within_bind within_state fun s => ?_)
  exact within_log _ _ _ (by decide)

variable [Quantity ν]

/-- Every action begins with the check. -/
theorem perform_halted (options : RunOptions ν) (ctx : Context ν) (block : Text)
    {operation : Operation} (active : operation.type = .action) {m : Machine ν}
    (halted : m.world.halt.isSome) :
    (perform options ctx block operation).result m =
      (.error (.fault Cause.halted.fault),
        { m with world.journal := m.world.journal.count .haltTriggered }) := by
  have checked (size : Int) (rest : Run ν Unit) :
      (preflight ctx block size >>= fun _ => rest).result m =
        (.error (.fault Cause.halted.fault),
          { m with world.journal := m.world.journal.count .haltTriggered }) := by
    rw [preflight, bind_assoc, result_bind, result_ofEngine, HaltSwitch.result_check, if_pos halted]
    rfl
  cases operation with
  | swap | deposit | withdraw => exact checked _ _
  | price | volume | time | balance | priceImpact | custom => cases active
  | loop | exitAfter | exitOnLoss | exitCustom => cases active

theorem turn_halted {program : Program} (reads : Program.Reads blocks program)
    (distinct : (blocks.map (·.id)).Nodup) (halted : w.halt.isSome) (options : RunOptions ν)
    (ctx : Context ν) {i : Instruction} (member : i ∈ program) :
    Turn options ctx (Waiting w blocks) (Barred w blocks) i := by
  -- the id of an instruction that is no action is not among the ids of the actions
  have passive (type : i.operation.type ≠ .action) {shown : List Text}
      (waiting : ¬Acts blocks shown) : ¬Acts blocks (shown ++ [i.id]) := by
    rintro ⟨b, among, action, named⟩
    rcases List.mem_append.mp named with earlier | here
    · exact waiting ⟨b, among, action, earlier⟩
    · exact type ((reads.type_eq distinct member among (List.mem_singleton.mp here)).trans action)
  have announced (type : i.operation.type ≠ .action) :
      Ensures (Waiting w blocks) (announce i) (fun _ => Waiting w blocks) (Barred w blocks) := by
    refine (ensures_announce i).imp fun _ m held => ?_
    obtain ⟨shown, untraded, waiting⟩ := held
    exact ⟨shown ++ [i.id], untraded, passive type waiting⟩
  refine ⟨fun _ => ?_, fun loop => ?_, fun _ _ _ _ =>
    (ensures_startIteration i.id).strengthen fun _ held => held.1⟩
  · by_cases action : i.operation.type = .action
    · refine ensures_bind (ensures_announce i) fun _ => ?_
      refine ensures_stop fun m held => ?_
      obtain ⟨shown, untraded, _⟩ := held
      refine ⟨_, _, perform_halted options ctx i.id action (untraded.world.halt ▸ halted),
        shown ++ [i.id], ?_, fun _ => rfl⟩
      exact ⟨Frame.trans untraded.world ⟨rfl, rfl, rfl, rfl, rfl, rfl⟩, untraded.executed,
        untraded.trades, untraded.dispatches⟩
    · refine ensures_bind (announced action) fun _ => ?_
      exact ensures_of_quiet (perform_quiet options ctx i.id i.operation action)
  · exact announced (by rw [loop]; decide)

end Run

namespace Interpreter

variable [Quantity ν] {w after : World ν} {ended : Except Fault RunReport}

/-- How the steps of a run end while trading is halted. -/
theorem steps_halted (options : RunOptions ν) (blocks : List Block) (ctx : Context ν)
    (maxIterations : ν) (halted : w.halt.isSome) :
    Run.Ensures (Run.Waiting w blocks) (steps options blocks ctx maxIterations)
      (fun _ => Run.Waiting w blocks) (Run.Barred w blocks) := by
  refine ensures_steps (fun f m held _ => ?_) fun program read => ?_
  · obtain ⟨shown, untraded, waiting⟩ := held
    exact ⟨shown, untraded, fun acts => absurd acts waiting⟩
  · have distinct := (Program.wellformed_of_ofBlocks read).distinct
    exact fun i => Run.turn_halted (Program.reads_of_ofBlocks distinct read) distinct halted options
      ctx

/-- A run while trading is halted changes no venue and records nothing, and it ends at the first
    action that it comes to. -/
theorem run_halted {options : RunOptions ν} {blocks : List Block} {ctx : Context ν}
    (halted : w.halt.isSome) (ran : (run options blocks ctx).result w = (ended, after)) :
    w.Journalled after ∧
    (∀ outcome, ended = .ok outcome →
      outcome.state.executedBlockIds = [] ∧ outcome.state.trades = []) ∧
    (Json.fieldsWritable w.journal.bound → ∀ shown,
      after.journal.dispatches = w.journal.dispatches ++ shown → Run.Acts blocks shown →
        ∃ outcome, ended = .ok outcome ∧ outcome.status = .aborted ∧
          outcome.error = some ⟨.halted, none⟩ ∧ outcome.reason = some "KILL_SWITCH_ACTIVE") := by
  obtain ⟨stopped, machine, taken, reported⟩ := of_run ran
  have start : Run.Waiting w blocks ⟨w, {}⟩ := by
    refine ⟨[], ⟨Frame.refl w, rfl, rfl, (List.append_nil _).symm⟩, ?_⟩
    rintro ⟨b, _, _, named⟩
    cases named
  have ends := steps_halted options blocks ctx w.settings.maxLoopIterations halted
  have noted := report_noted stopped machine.state machine.world
  rw [reported] at noted
  obtain ⟨shown, untraded, atAction⟩ : ∃ shown, Run.Untraded w shown machine ∧
      (Run.Acts blocks shown → stopped = .error (.fault Cause.halted.fault)) := by
    cases stopped with
    | ok _ =>
        obtain ⟨shown, untraded, waiting⟩ := ends.done start taken
        exact ⟨shown, untraded, fun acts => absurd acts waiting⟩
    | error stop =>
        obtain ⟨shown, untraded, atAction⟩ := ends.stopped start taken
        exact ⟨shown, untraded, fun acts => congrArg _ (atAction acts)⟩
  refine ⟨Frame.trans untraded.world noted.journalled, ?_, fun bound new told acts => ?_⟩
  · rintro outcome rfl
    rw [state_of_report_ok reported]
    exact ⟨untraded.executed, untraded.trades⟩
  · rw [noted.dispatches, untraded.dispatches] at told
    cases List.append_cancel_left told
    rw [atAction acts] at reported
    have nothing : Numeral.isWritable (List.length (α := Text) []) = true :=
      Numeral.isWritable_of_u64 (Int.le_refl 0) (by decide)
    obtain ⟨_, returned⟩ := report_returns_failure ⟨.halted, none⟩ machine.state
      (untraded.world.bound ▸ bound) (untraded.executed ▸ nothing) (untraded.trades ▸ nothing)
    cases returned.symm.trans reported
    exact ⟨_, rfl, rfl, rfl, rfl⟩

end Interpreter

/-! ### Whatever is asked for -/

/-- What an activity brings home. -/
inductive Receipt (ν : Type) where
  | trade (trade : ExecutedTrade)
  | fill (fill : Fill)
  | shares (minted : ν)
  | reserves (outA outB : ν)
  | move (move : LiquidityMove)

/-- What the engine can be asked for that trades. -/
inductive Activity (ν : Type) where
  | strategy (s : NamedStrategy ν) (ctx : Context ν)
  | program (options : RunOptions ν) (blocks : List Block) (ctx : Context ν)
  | arbitrage (s : Arbitrageur ν) (ctx : Context ν)
  | route (route : ArbitrageRoute) (amountIn : ν) (ctx : Context ν)
  | rebalance (targets : List LiquidityTarget) (executes : Bool) (ctx : Context ν)
  | moves (moves : List LiquidityMove)
  | swap (venue : VenueKind) (pool token : Name) (amountIn : ν) (minimumOut : Option ν)
      (slippageBps : ν)
  | deposit (venue : VenueKind) (pool : Name) (amountA : ν) (amountB : Option ν)
  | withdraw (venue : VenueKind) (pool : Name) (amountA : ν)

namespace Activity

variable [Quantity ν]

/-- Does what is asked for and gives what it brings home. -/
def perform : Activity ν → Engine ν (List (Receipt ν))
  | strategy s ctx => return (← s.run ctx).state.trades.map .trade
  | program options blocks ctx =>
    return (← Interpreter.run options blocks ctx).state.trades.map .trade
  | arbitrage s ctx => do
    let report ← s.run ctx
    return report.executed.toList.map .trade ++ report.openFill.toList.map .fill
  | route r amountIn ctx => return (← r.execute amountIn ctx).toList.map .trade
  | rebalance targets executes ctx => do
    let found ← Rebalance.run targets executes ctx
    return if executes then found.map .move else []
  | moves planned => do
    let applied : List (LiquidityMove × ν) ← Rebalance.apply planned
    return applied.map (.move ·.1)
  | swap venue pool token amountIn minimumOut slippageBps =>
    return [.fill (← Trade.swap venue pool token amountIn minimumOut slippageBps)]
  | deposit venue pool amountA amountB =>
    return [.shares (← Trade.deposit venue pool amountA amountB)]
  | withdraw venue pool amountA => do
    let (outA, outB) ← Trade.withdraw venue pool amountA
    return [.reserves outA outB]

/-- One activity after the other, each also if those before it ended in a fault. -/
def performAll (activities : List (Activity ν)) :
    Engine ν (List (Except Fault (List (Receipt ν)))) :=
  activities.mapM fun activity => activity.perform.attempt

theorem perform_halted (activity : Activity ν) {w after : World ν} (halted : w.halt.isSome)
    {ended : Except Fault (List (Receipt ν))} (ran : activity.perform.result w = (ended, after)) :
    w.Journalled after ∧ ∀ receipts, ended = .ok receipts → receipts = [] := by
  have barred (h : Barred activity.perform) :
      w.Journalled after ∧ ∀ receipts, ended = .ok receipts → receipts = [] := by
    obtain ⟨f, _, stopped, journalled⟩ := h w halted
    cases stopped.symm.trans ran
    exact ⟨journalled, fun _ returned => nomatch returned⟩
  cases activity with
  | strategy s ctx =>
      refine barred (Barred.bind ?_ _)
      simp only [NamedStrategy.run]
      split
      · exact (barred_fail _).bind _
      · exact barred_check.bind _
  | program options blocks ctx =>
      simp only [perform] at ran
      rw [result_bind] at ran
      cases reached : (Interpreter.run options blocks ctx).result w with
      | mk r between =>
          obtain ⟨journalled, nothing, _⟩ := Interpreter.run_halted halted reached
          rw [reached] at ran
          cases r with
          | ok outcome =>
              cases ran
              refine ⟨journalled, fun receipts same => ?_⟩
              cases same
              rw [(nothing outcome rfl).2, List.map_nil]
          | error f =>
              cases ran
              exact ⟨journalled, fun _ returned => nomatch returned⟩
  | arbitrage s ctx => exact barred ((barred_check.bind _).bind _)
  | route r amountIn ctx => exact barred (((barred_check.bind _).bind _).bind _)
  | rebalance targets executes ctx => exact barred ((barred_check.bind _).bind _)
  | moves planned =>
      cases planned with
      | nil =>
          cases ran
          exact ⟨Frame.refl w, fun _ same => by cases same; rfl⟩
      | cons move rest =>
          refine barred (Barred.bind ?_ _)
          rw [Rebalance.apply, List.mapM_cons]
          exact ((barred_check.bind _).bind _).bind _
  | swap => exact barred ((Trade.swap_barred _ _ _ _ _ _).bind _)
  | deposit => exact barred ((Trade.deposit_barred _ _ _ _).bind _)
  | withdraw => exact barred ((Trade.withdraw_barred _ _ _).bind _)

theorem performAll_halted (activities : List (Activity ν)) {w : World ν} (halted : w.halt.isSome) :
    ∃ outcomes after, (performAll activities).result w = (.ok outcomes, after) ∧
      w.Journalled after ∧ ∀ o ∈ outcomes, ∀ receipts, o = .ok receipts → receipts = [] := by
  induction activities generalizing w with
  | nil => exact ⟨[], w, rfl, Frame.refl w, fun _ member => nomatch member⟩
  | cons activity rest ih =>
      cases ran : activity.perform.result w with
      | mk ended between =>
          obtain ⟨journalled, nothing⟩ := activity.perform_halted halted ran
          obtain ⟨outcomes, after, performed, later, others⟩ := ih (journalled.halt ▸ halted)
          refine ⟨ended :: outcomes, after, ?_, Frame.trans journalled later, ?_⟩
          · rw [performAll, List.mapM_cons, result_bind, result_attempt, ran]
            dsimp only
            rw [performAll] at performed
            rw [result_bind, performed]
            rfl
          · intro o member
            rcases List.mem_cons.mp member with rfl | member
            · exact nothing
            · exact others o member

/-- While trading is halted, whatever is asked for and in whatever order, no venue changes and
    nothing is brought home. Every run of a block list that is asked for next and comes to an action
    is aborted there, by the halt and with nothing executed. -/
theorem nothing_trades_while_halted (activities : List (Activity ν)) (w after : World ν)
    (ended : Except Fault (List (Except Fault (List (Receipt ν))))) (halted : w.halt.isSome)
    (performed : (performAll activities).result w = (ended, after)) :
    after.halt = w.halt ∧ after.venues = w.venues ∧
    (∃ outcomes, ended = .ok outcomes ∧
      ∀ o ∈ outcomes, ∀ receipts, o = .ok receipts → receipts = []) ∧
    ∀ options blocks ctx finished last shown,
      (Interpreter.run options blocks ctx).result after = (finished, last) →
      Json.fieldsWritable w.journal.bound →
      last.journal.dispatches = after.journal.dispatches ++ shown → Run.Acts blocks shown →
        ∃ outcome, finished = .ok outcome ∧ outcome.status = .aborted ∧
          outcome.error = some ⟨.halted, none⟩ ∧ outcome.reason = some "KILL_SWITCH_ACTIVE" ∧
          outcome.state.executedBlockIds = [] := by
  obtain ⟨outcomes, _, through, journalled, nothing⟩ := performAll_halted activities halted
  cases through.symm.trans performed
  refine ⟨journalled.halt, journalled.venues, ⟨outcomes, rfl, nothing⟩, ?_⟩
  intro options blocks ctx finished last shown ran bound told acts
  obtain ⟨_, executed, atAction⟩ := Interpreter.run_halted (journalled.halt ▸ halted) ran
  obtain ⟨outcome, rfl, status, error, reason⟩ :=
    atAction (journalled.bound ▸ bound) shown told acts
  exact ⟨outcome, rfl, status, error, reason, (executed outcome rfl).1⟩

/-- Trading is halted, with a pool on one venue and another venue that is scripted. -/
def drillWorld : World Int :=
  { settings := .standard
    halt := some (HaltSwitch.note "drill")
    journal := { threshold := 60 }
    venues := [(.raydium, .paper { kind := .raydium, pools := [(.text "pool",
        { tokenA := .text "A", tokenB := .text "B", reserveA := 1000, reserveB := 1000
          feeBps := 30, lpSupply := 1000 })] }),
      (.serum, .scripted { kind := .serum, haircutBps := 0 })] }

/-- Waits for a time that has come, and then sells. -/
def drillBlocks : List Block :=
  [{ id := "wait", type := .trigger, triggerType := some .time,
     parameters := { notBefore := some 0 } },
   { id := "sell", type := .action, actionType := some .swap,
     parameters := { venue := some .raydium, pool := some "pool", token := some "A",
                     amount := some 100, slippageBps := some 100 } }]

/-- A caller that may trade 100. -/
def drillContext : Context Int :=
  { oracle := { now := 0 }, risk := { maxTradeSize := 100, dailyLossLimit := 0 }, metrics := .none,
    now := 0 }

/-- A call on either venue, some moves, and the block list. -/
def drill : List (Activity Int) :=
  [.swap .raydium (.text "pool") (.text "A") 100 none 100, .deposit .serum (.text "pool") 100 none,
    .moves [⟨.raydium, "pool", 100, .remove⟩], .program ⟨⟨0, 0⟩, 0⟩ drillBlocks drillContext]

/-- The drill as it is performed. -/
def drilled : Except Fault (List (Except Fault (List (Receipt Int)))) × World Int :=
  (performAll drill).result drillWorld

/-- The run of the block list after the drill. -/
def drillRun : Except Fault RunReport × World Int :=
  (Interpreter.run ⟨⟨0, 0⟩, 0⟩ drillBlocks drillContext).result drilled.2

set_option maxRecDepth 10000 in
theorem drill_trades_nothing :
    drilled.2.venues = drillWorld.venues ∧
      ∃ outcome, drillRun.1 = .ok outcome ∧ outcome.reason = some "KILL_SWITCH_ACTIVE" := by
  obtain ⟨_, venues, _, aborts⟩ :=
    nothing_trades_while_halted drill drillWorld drilled.2 drilled.1 rfl (Prod.eta _).symm
  have told : drillRun.2.journal.dispatches =
      drilled.2.journal.dispatches ++ (["wait", "sell"] : List Text) := by
    decide +kernel
  have acts : Run.Acts drillBlocks ["wait", "sell"] :=
    ⟨drillBlocks[1], by simp [drillBlocks], rfl, by decide⟩
  obtain ⟨outcome, returned, _, _, reason, _⟩ :=
    aborts _ _ _ drillRun.1 drillRun.2 _ (Prod.eta _).symm rfl told acts
  exact ⟨venues, outcome, returned, reason⟩

end Activity

end TradingEngine
