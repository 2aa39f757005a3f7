import TradingEngine.Proofs.Strategy.Steps

/-! # What every run keeps

A relation between machines that can be composed holds from the first to the last machine of a run,
whatever its program, if it holds across every step that records nothing and across every action.
The bookkeeping of the interpreter, its announcements and its counters, is of the first kind.
-/

namespace TradingEngine

open Engine Quantity

variable {ν α : Type}

/-- Nothing was executed between two machines. Dispatches and iterations may have been noted. -/
structure Machine.Steady (m after : Machine ν) : Prop where
  executed : after.state.executedBlockIds = m.state.executedBlockIds
  trades : after.state.trades = m.state.trades
  venues : after.world.venues = m.world.venues

theorem Machine.Booked.steady {m after : Machine ν} (h : m.Booked after) : m.Steady after :=
  ⟨h.executed, h.trades, h.world.venues⟩

theorem Machine.Quiet.steady {m after : Machine ν} (h : m.Quiet after) : m.Steady after :=
  h.booked.steady

namespace Run

section

variable {R : Machine ν → Machine ν → Prop}

theorem Within.mono {S : Machine ν → Machine ν → Prop} {step : Run ν α} (h : Within R step)
    (weaker : ∀ {m after}, R m after → S m after) : Within S step :=
  ⟨fun m => weaker (h.relates m), h.early⟩

/-- A step keeps to a relation if it carries along how a machine stands to any machine before. -/
theorem within_of_ensures [Frame R] {step : Run ν α}
    (h : ∀ first, Ensures (R first) step (fun _ => R first)
      fun stop after => R first after ∧ stop.Early) : Within R step where
  relates m := by
    cases ended : step.result m with
    | mk r after =>
        cases r with
        | ok a => exact (h m).done (Frame.refl m) ended
        | error stop => exact ((h m).stopped (Frame.refl m) ended).1
  early m stop ended := ((h m).stopped (Frame.refl m) (Prod.ext ended rfl)).2

end

variable [Quantity ν]

variable {R : Machine ν → Machine ν → Prop} {ctx : Context ν}

/-- What a relation has to hold across in order to hold across whole runs. -/
structure Kept (ctx : Context ν) (R : Machine ν → Machine ν → Prop) : Prop where
  steady {m after : Machine ν} : m.Steady after → R m after
  action {block : Text} {size : Int} {m : Machine ν} {r : Except Stop Unit × Machine ν} :
    Attempt ctx block size m r → R m r.2

theorem within_perform (kept : Kept ctx R) (options : RunOptions ν) (block : Text)
    (operation : Operation) : Within R (perform options ctx block operation) := by
  by_cases active : operation.type = .action
  · refine ⟨fun m => ?_, fun m stop ended => ?_⟩
    · obtain ⟨size, attempt⟩ := perform_attempt options ctx block operation active m
      exact kept.action attempt
    · obtain ⟨size, attempt⟩ := perform_attempt options ctx block operation active m
      rw [← Prod.eta ((perform options ctx block operation).result m), ended] at attempt
      exact attempt.early
  · exact (perform_quiet options ctx block operation active).booked.mono fun related =>
      kept.steady related.steady

variable [Frame R]

theorem within_steps (kept : Kept ctx R) (options : RunOptions ν) (blocks : List Block)
    (maxIterations : ν) : Within R (Interpreter.steps options blocks ctx maxIterations) := by
  refine within_of_ensures fun first => ?_
  let stands (stop : Stop) (after : Machine ν) : Prop := R first after ∧ stop.Early
  have carried {step : Run ν Unit} (h : Within R step) :
      Ensures (R first) step (fun _ => R first) stands :=
    h.ensures (fun _ _ related held => Frame.trans held related)
      fun _ _ _ early related held => ⟨Frame.trans held related, early⟩
  have booked {step : Run ν Unit} (h : Within Machine.Booked step) : Within R step :=
    h.mono fun related => kept.steady related.steady
  refine Interpreter.ensures_steps (fun f m held _ => ⟨held, trivial⟩) fun program _ i _ => ?_
  refine ⟨fun _ => carried ?_, fun _ => carried (booked (announce_booked i)), fun _ _ _ _ =>
    (carried (booked (startIteration_booked i.id))).strengthen fun _ held => held.1⟩
  exact within_bind (booked (announce_booked i)) fun _ =>
    within_perform kept options i.id i.operation

end Run

/-- A run that returns an outcome has kept every such relation from its start on. -/
theorem Interpreter.kept_of_run [Quantity ν] {R : Machine ν → Machine ν → Prop} [Frame R]
    {options : RunOptions ν} {blocks : List Block} {ctx : Context ν} (kept : Run.Kept ctx R)
    {w after : World ν} {outcome : RunReport}
    (ran : (run options blocks ctx).result w = (.ok outcome, after)) :
    ∃ machine : Machine ν, R ⟨w, {}⟩ machine ∧ outcome.state = machine.state ∧
      after.venues = machine.world.venues := by
  obtain ⟨ended, machine, taken, reported⟩ := of_run ran
  have within := Run.within_steps kept options blocks w.settings.maxLoopIterations
  have related := within.relates ⟨w, {}⟩
  rw [taken] at related
  have noted := report_noted ended machine.state machine.world
  rw [reported] at noted
  obtain ⟨same, _⟩ := of_report_ok reported fun stop h =>
    within.early ⟨w, {}⟩ stop (by rw [taken, h])
  exact ⟨machine, related, same, noted.venues⟩

end TradingEngine
