import TradingEngine.Proofs.Strategy.Progress
import TradingEngine.Proofs.Wording

/-! # How a run of a block list ends

A run takes the steps of its program on an empty state and then reports how they ended. The report
changes no venue and dispatches nothing, and it calls a run completed only if the program came to
its end.
-/

namespace TradingEngine

open Engine Quantity

variable {ν : Type}

/-- A stop that a run reports. A breakdown is none. -/
def Stop.Reported : Stop → Prop
  | .finished _ _ => True
  | .fault (.failure _) => True
  | .fault _ => False

namespace Interpreter

/-- The steps of a run, without the report of how they ended. -/
def steps [Quantity ν] (options : RunOptions ν) (blocks : List Block) (ctx : Context ν)
    (maxIterations : ν) : Run ν Unit := do
  let program ← Run.ofExcept (Program.ofBlocks maxIterations blocks)
  Run.all options ctx program

/-- The report of how the steps of a run ended. -/
def report (ended : Except Stop Unit) (state : RunState) : Engine ν RunReport :=
  match ended with
  | .ok () => conclude { status := .completed, state }
  | .error (.finished status reason) => conclude { status, state, reason := some reason }
  | .error (.fault (.failure failure)) => do
    Engine.log .error "STRATEGY_RUN_ABORTED"
      [("code", .text failure.code), ("error", .text failure.message),
        ("executed_blocks", .int state.executedBlockIds.length)]
    conclude { status := .aborted, state, error := some failure, reason := some failure.code }
  | .error (.fault other) => Engine.fault other

theorem of_run [Quantity ν] {options : RunOptions ν} {blocks : List Block} {ctx : Context ν}
    {w after : World ν} {r : Except Fault RunReport}
    (h : (run options blocks ctx).result w = (r, after)) :
    ∃ ended machine,
      (steps options blocks ctx w.settings.maxLoopIterations).result ⟨w, {}⟩ = (ended, machine) ∧
        (report ended machine.state).result machine.world = (r, after) := by
  simp only [run, result_bind, result_settings, result_get] at h
  exact ⟨_, _, rfl, h⟩

theorem conclude_noted (outcome : RunReport) :
    Within World.Noted (conclude outcome : Engine ν RunReport) :=
  within_bind (count_noted _) fun _ =>
    within_bind (log_noted _ _ _ (by decide)) fun _ => within_pure outcome

theorem report_noted (ended : Except Stop Unit) (state : RunState) :
    Within World.Noted (report ended state : Engine ν RunReport) := by
  cases ended with
  | ok _ => exact conclude_noted _
  | error stop =>
      cases stop with
      | finished status reason => exact conclude_noted _
      | fault f =>
          cases f with
          | failure failure =>
              exact within_bind (log_noted _ _ _ (by decide)) fun _ => conclude_noted _
          | refused | breakdown => exact within_fault _

theorem of_conclude_ok {outcome reported : RunReport} {w after : World ν}
    (h : (conclude outcome).result w = (.ok reported, after)) : reported = outcome := by
  obtain ⟨_, _, _, h⟩ := of_bind_ok h
  obtain ⟨_, _, _, h⟩ := of_bind_ok h
  cases h
  rfl

theorem state_of_report_ok {ended : Except Stop Unit} {state : RunState} {outcome : RunReport}
    {w after : World ν} (h : (report ended state).result w = (.ok outcome, after)) :
    outcome.state = state := by
  cases ended with
  | ok _ =>
      cases of_conclude_ok h
      rfl
  | error stop =>
      cases stop with
      | finished status reason =>
          cases of_conclude_ok h
          rfl
      | fault f =>
          cases f with
          | failure failure =>
              obtain ⟨_, _, _, h⟩ := of_bind_ok h
              cases of_conclude_ok h
              rfl
          | refused | breakdown => cases h

theorem reported_of_report_ok {stop : Stop} {state : RunState} {outcome : RunReport}
    {w after : World ν} (h : (report (.error stop) state).result w = (.ok outcome, after)) :
    stop.Reported := by
  cases stop with
  | finished status reason => trivial
  | fault f =>
      cases f with
      | failure failure => trivial
      | refused | breakdown => cases h

/-- An outcome tells the state in which the steps ended, and it is that of a completed run only if
    they came to the end of the program. -/
theorem of_report_ok {ended : Except Stop Unit} {state : RunState} {outcome : RunReport}
    {w after : World ν} (h : (report ended state).result w = (.ok outcome, after))
    (early : ∀ stop, ended = .error stop → stop.Early) :
    outcome.state = state ∧ (outcome.status = .completed → ended = .ok ()) := by
  cases ended with
  | ok _ =>
      cases of_conclude_ok h
      exact ⟨rfl, fun _ => rfl⟩
  | error stop =>
      cases stop with
      | finished status reason =>
          cases of_conclude_ok h
          exact ⟨rfl, fun completed => absurd completed (early _ rfl)⟩
      | fault f =>
          cases f with
          | failure failure =>
              obtain ⟨_, _, _, h⟩ := of_bind_ok h
              cases of_conclude_ok h
              exact ⟨rfl, fun completed => nomatch completed⟩
          | refused | breakdown => cases h

/-- Where the bound fields can be written, every end of the steps but a breakdown is reported. -/
theorem conclude_returns (outcome : RunReport) {w : World ν}
    (bound : Json.fieldsWritable w.journal.bound = true)
    (executed : Numeral.isWritable outcome.state.executedBlockIds.length = true)
    (trades : Numeral.isWritable outcome.state.trades.length = true) :
    ∃ after, (conclude outcome).result w = (.ok outcome, after) := by
  let counted : World ν :=
    { w with journal := w.journal.count (.runsFinished outcome.status) }
  have own : Json.fieldsWritable
      [("status", .text outcome.status.name), ("reason", .ofOption .text outcome.reason),
        ("executed_blocks", .int outcome.state.executedBlockIds.length),
        ("trades", .int outcome.state.trades.length)] = true := by
    cases outcome.reason <;>
      simp [Json.fieldsWritable, Json.isWritable, Json.ofOption, executed, trades]
  obtain ⟨after, logged, _⟩ :=
    log_ok (w := counted) .info "STRATEGY_RUN_FINISHED" (by decide) bound own
  refine ⟨after, ?_⟩
  simp only [conclude]
  rw [result_bind, result_count]
  dsimp only
  rw [result_bind, logged]
  rfl

theorem report_returns_failure (failure : Failure) (state : RunState) {w : World ν}
    (bound : Json.fieldsWritable w.journal.bound = true)
    (executed : Numeral.isWritable state.executedBlockIds.length = true)
    (trades : Numeral.isWritable state.trades.length = true) :
    ∃ after, (report (.error (.fault (.failure failure))) state).result w =
      (.ok ⟨.aborted, state, some failure, some failure.code⟩, after) := by
  have own : Json.fieldsWritable
      [("code", .text failure.code), ("error", .text failure.message),
        ("executed_blocks", .int state.executedBlockIds.length)] = true := by
    simp [Json.fieldsWritable, Json.isWritable, executed]
  obtain ⟨noting, logged, noted⟩ := log_ok .error "STRATEGY_RUN_ABORTED" (by decide) bound own
  obtain ⟨after, concluded⟩ := conclude_returns
    ⟨.aborted, state, some failure, some failure.code⟩ (noted.bound ▸ bound) executed trades
  refine ⟨after, ?_⟩
  simp only [report]
  rw [result_bind, logged]
  exact concluded

end Interpreter

end TradingEngine
