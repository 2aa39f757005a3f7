import TradingEngine.Proofs.Strategy.Faults
import TradingEngine.Proofs.Strategy.RiskGate

/-! # Why a run ended

The status and the reason of an outcome can be checked against the state that it reports: an exit
that ended the run has its test still true there, and an amount that the risk gate turned down is
still turned down there. Whatever loops the run was in when it stopped, nothing comes in between. A
run that ended for a fault says which one, and one whose block list was refused has done nothing.
-/

namespace TradingEngine

open Engine Quantity

variable {ν α β : Type} [Quantity ν]

/-- The risk gate turns down an action of this size: with what the run has realised, one of the
    limits is broken. -/
def Run.TurnedDown (ctx : Context ν) (s : RunState) (size : Int) : Prop :=
  ∃ total limit, add ctx.metrics.totalProfitLoss (ofInt s.cumulativeProfitLoss) = .ok total ∧
    ctx.risk.broken? { ctx.metrics with totalProfitLoss := total } (ofInt size) = .ok (some limit)

omit [Quantity ν] in
/-- The test of an exit block, given the venues and what a run has done so far. -/
def Block.ExitHolds (ctx : Context ν) (venues : Registry ν) (s : RunState) (b : Block) : Prop :=
  match b.exitType with
  | some .blocksExecuted =>
    ∃ n, b.parameters.exitAfterBlocks = some n ∧ n ≤ s.executedBlockIds.length
  | some .cumulativeLoss => ∃ n, b.parameters.maxLoss = some n ∧ n < -s.cumulativeProfitLoss
  | some .custom => ∃ name predicate, b.parameters.predicate = some name ∧
      ctx.predicate name = .ok predicate ∧ predicate ctx.toSnapshot venues s = .ok true
  | none => False

/-- An outcome that its own state explains. -/
inductive RunReport.Justified (blocks : List Block) (ctx : Context ν) (venues : Registry ν) :
    RunReport → Prop
  | completed (s : RunState) : Justified blocks ctx venues { status := .completed, state := s }
  | exited (s : RunState) (b : Block) : b ∈ blocks → b.type = .exit → b.ExitHolds ctx venues s →
      Justified blocks ctx venues
        { status := .exited, state := s, reason := some ("exit:" ++ b.id) }
  | turnedDown (s : RunState) (b : Block) (amount : Int) : b ∈ blocks → b.type = .action →
      b.parameters.amount = some amount → Run.TurnedDown ctx s amount →
      Justified blocks ctx venues { status := .aborted, state := s, reason := some "risk_rejected" }
  | failed (s : RunState) (e : Failure) : Justified blocks ctx venues
      { status := .aborted, state := s, error := some e, reason := some e.code }

/-- A stop of which the machine explains the report. A fault explains itself. -/
def Stop.Justified (blocks : List Block) (ctx : Context ν) : Stop → Machine ν → Prop
  | .finished status reason, m => RunReport.Justified blocks ctx m.world.venues
      { status, state := m.state, reason := some reason }
  | .fault _, _ => True

/-! ### What a block says -/

namespace Operation

/-- The amount that an action asks the risk gate for. -/
def amount? : Operation → Option Int
  | .swap _ _ _ amount _ _ | .deposit _ _ amount _ | .withdraw _ _ amount => some amount
  | _ => none

/-- The test of an operation that may end the run. -/
def ExitHolds (ctx : Context ν) (venues : Registry ν) (s : RunState) : Operation → Prop
  | .exitAfter n => n ≤ s.executedBlockIds.length
  | .exitOnLoss n => n < -s.cumulativeProfitLoss
  | .exitCustom name => ∃ predicate, ctx.predicate name = .ok predicate ∧
      predicate ctx.toSnapshot venues s = .ok true
  | _ => False

end Operation

namespace Block

variable {blocks : List Block} {b : Block} {operation : Operation}

/-- An action asks for the amount that its block sets. -/
theorem amount_of_operation? {amount : Int} (read : b.operation? blocks = some operation)
    (asked : operation.amount? = some amount) :
    b.type = .action ∧ b.parameters.amount = some amount := by
  have isForm := form?_of_operation? read
  refine ⟨?_, ?_⟩
  · rw [type_of_form? isForm]
    cases operation <;> first | rfl | cases asked
  · cases operation <;> cases asked <;>
      · simp only [operation?, isForm, Operation.form, Option.bind_eq_bind, Option.bind_some,
          Option.bind_eq_some_iff, Option.pure_def, Option.some.injEq] at read
        grind

theorem exit_of_form? {type : ExitType} (h : b.form? = some (.exit type)) :
    b.type = .exit ∧ b.exitType = some type := by
  have active := type_of_form? h
  refine ⟨active, ?_⟩
  simp only [form?, active] at h
  obtain ⟨_, given, same⟩ := Option.map_eq_some_iff.mp h
  cases same
  exact given

omit [Quantity ν] in
/-- An exit tests what its block sets. -/
theorem exitHolds_of_operation? {ctx : Context ν} {venues : Registry ν} {s : RunState}
    (read : b.operation? blocks = some operation) (holds : operation.ExitHolds ctx venues s) :
    b.type = .exit ∧ b.ExitHolds ctx venues s := by
  have isForm := form?_of_operation? read
  cases operation with
  | exitAfter | exitOnLoss | exitCustom =>
      obtain ⟨active, given⟩ := exit_of_form? isForm
      simp only [operation?, isForm, Operation.form, Option.bind_eq_bind, Option.bind_some,
        Option.bind_eq_some_iff, Option.pure_def, Option.some.injEq] at read
      obtain ⟨_, set, same⟩ := read
      cases same
      refine ⟨active, ?_⟩
      simp only [Block.ExitHolds, given]
      first
        | exact ⟨_, set, holds⟩
        | exact ⟨_, holds.choose, set, holds.choose_spec⟩
  | _ => exact holds.elim

end Block

/-! ### What a step may be stopped by -/

namespace Run

/-- A step that stops with a justification only. -/
abbrev Justifies (blocks : List Block) (ctx : Context ν) (step : Run ν α) : Prop :=
  Ensures (fun _ => True) step (fun _ _ => True) (Stop.Justified blocks ctx)

variable {blocks : List Block} {ctx : Context ν} {b : Block}

theorem justifies_bind {step : Run ν α} {next : α → Run ν β}
    (first : Justifies blocks ctx step) (rest : ∀ a, Justifies blocks ctx (next a)) :
    Justifies blocks ctx (step >>= next) :=
  ensures_bind (Q := fun _ _ => True) first rest

theorem justifies_pure (a : α) : Justifies blocks ctx (pure a : Run ν α) :=
  ensures_pure fun _ _ => trivial

theorem justifies_ofEngine (op : Engine ν α) : Justifies blocks ctx (ofEngine op) :=
  ensures_ofEngine (fun _ _ _ _ _ => trivial) fun _ _ _ _ _ => trivial

theorem justifies_update (f : RunState → RunState) :
    Justifies blocks ctx (update f : Run ν Unit) :=
  ensures_update fun _ _ => trivial

theorem trigger_justifies (block : Text) (type : TriggerType) (satisfied : Bool)
    (reading : Reading) : Justifies blocks ctx (trigger block type satisfied reading) :=
  ensures_tested satisfied (justifies_ofEngine _) (justifies_ofEngine _)

theorem condition_justifies (block : Text) (type : ConditionType) (met : Bool)
    (reading : Reading) : Justifies blocks ctx (condition block type met reading) :=
  ensures_tested met (justifies_ofEngine _) (justifies_ofEngine _)

theorem readPrice_justifies (options : RunOptions ν) (feed : Text) (twapPeriod : Option Int) :
    Justifies blocks ctx (readPrice options ctx feed twapPeriod) := by
  refine justifies_bind (justifies_ofEngine _) fun quote => ?_
  refine justifies_bind (justifies_ofEngine _) fun spot => ?_
  cases twapPeriod with
  | none => exact justifies_pure _
  | some seconds => exact justifies_bind (justifies_ofEngine _) fun _ => justifies_ofEngine _

theorem readImpact_justifies (pool token : Text) (amount : Int) :
    Justifies blocks ctx (readImpact ctx pool token amount) := by
  unfold readImpact
  split
  · exact justifies_ofEngine _
  · refine justifies_bind (justifies_ofEngine _) fun reserves => ?_
    refine justifies_bind (justifies_ofEngine _) fun sides => ?_
    exact justifies_bind (justifies_ofEngine _) fun _ => justifies_ofEngine _

theorem record_justifies (block : Text) (trade : ExecutedTrade) :
    Justifies blocks ctx (record block trade) := by
  refine justifies_bind (justifies_update _) fun _ => ?_
  exact justifies_bind (justifies_ofEngine _) fun _ => justifies_ofEngine _

/-- What a caller's predicate said is still so when the run goes on. -/
theorem test_ensures (name : Text) :
    Ensures (fun _ => True) (test ctx name)
      (fun holds m => holds = true → ∃ predicate, ctx.predicate name = .ok predicate ∧
        predicate ctx.toSnapshot m.world.venues m.state = .ok true)
      (Stop.Justified blocks ctx) := by
  refine ensures_bind (Q := fun predicate _ => ctx.predicate name = .ok predicate)
    (ensures_ofExcept (fun _ _ _ found => found) fun _ _ _ _ => trivial) fun predicate => ?_
  refine ensures_bind (Q := fun seen m => m = seen ∧ ctx.predicate name = .ok predicate)
    ⟨fun found ended => ?_, fun _ ended => by cases ended⟩ fun seen => ?_
  · cases ended
    exact ⟨rfl, found⟩
  · refine ensures_ofExcept (fun holds m held answered said => ?_) fun _ _ _ _ => trivial
    obtain ⟨rfl, found⟩ := held
    rw [said] at answered
    exact ⟨predicate, found, answered⟩

/-- Between the test of an exit and the end of the run there is only a journal entry. -/
theorem exit_justified (member : b ∈ blocks) (type : ExitType) (holds : Bool) :
    Ensures (fun m => holds = true → b.type = .exit ∧ b.ExitHolds ctx m.world.venues m.state)
      (exit b.id type holds) (fun _ _ => True) (Stop.Justified blocks ctx) := by
  cases holds with
  | false => exact ensures_pure fun _ _ => trivial
  | true =>
      refine ensures_bind
        (Q := fun _ m => b.type = .exit ∧ b.ExitHolds ctx m.world.venues m.state)
        (ensures_log (fun _ _ held _ => held rfl) fun _ _ _ _ => trivial) fun _ => ?_
      refine ensures_stop fun m held => ⟨_, m, result_finish _ _ m, ?_⟩
      exact .exited m.state b member held.1 held.2

/-- Between the refusal of an amount and the end of the run there is only a journal entry. -/
theorem preflight_justified {amount : Int} (member : b ∈ blocks) (active : b.type = .action)
    (set : b.parameters.amount = some amount) :
    Justifies blocks ctx (preflight ctx b.id amount) := by
  refine justifies_bind (justifies_ofEngine _) fun _ => ?_
  refine ensures_bind (Q := fun s m => m.state = s) (ensures_state fun _ _ => rfl) fun s => ?_
  refine ensures_bind (Q := fun total m =>
      add ctx.metrics.totalProfitLoss (ofInt s.cumulativeProfitLoss) = .ok total ∧ m.state = s)
    (ensures_ofExcept (fun _ _ same sum => ⟨sum, same⟩) fun _ _ _ _ => trivial) fun total =>
      ensures_fact fun sum => ?_
  refine ensures_bind (Q := fun granted m => granted = false → TurnedDown ctx m.state amount)
    (ensures_ofEngine (fun granted m after same ended refused => ?_) fun _ _ _ _ _ => trivial)
    fun granted => ?_
  · subst same refused
    obtain ⟨limit, broken⟩ := RiskLimits.of_allow_refused ended
    exact ⟨total, limit, sum, broken⟩
  · cases granted with
    | true => exact ensures_pure fun _ _ => trivial
    | false =>
        refine ensures_bind (Q := fun _ m => TurnedDown ctx m.state amount)
          (ensures_log (fun _ _ held _ => held rfl) fun _ _ _ _ => trivial) fun _ => ?_
        refine ensures_stop fun m refused => ⟨_, m, result_finish _ _ m, ?_⟩
        exact .turnedDown m.state b amount member active set refused

/-- Whatever a block does, it stops the run with a justification only. -/
theorem perform_justified (options : RunOptions ν) {operation : Operation} (member : b ∈ blocks)
    (read : b.operation? blocks = some operation) :
    Justifies blocks ctx (perform options ctx b.id operation) := by
  have gate {amount : Int} (asked : operation.amount? = some amount) :
      Justifies blocks ctx (preflight ctx b.id amount) := by
    obtain ⟨active, set⟩ := Block.amount_of_operation? read asked
    exact preflight_justified member active set
  have ends (type : ExitType) (holds : Bool) {P : Machine ν → Prop}
      (tested : ∀ m, P m → holds = true → operation.ExitHolds ctx m.world.venues m.state) :
      Ensures P (exit b.id type holds) (fun _ _ => True) (Stop.Justified blocks ctx) :=
    (exit_justified member type holds).strengthen fun m held said =>
      Block.exitHolds_of_operation? read (tested m held said)
  cases operation with
  | price feed comparison threshold twapPeriod =>
      refine justifies_bind (readPrice_justifies options feed twapPeriod) fun price => ?_
      refine justifies_bind (justifies_update _) fun _ => ?_
      exact justifies_bind (justifies_ofEngine _) fun _ => trigger_justifies _ _ _ _
  | volume feed threshold =>
      rw [perform]
      split
      · exact justifies_ofEngine _
      · exact trigger_justifies _ _ _ _
  | time notBefore notAfter => exact trigger_justifies _ _ _ _
  | balance token minimum => exact condition_justifies _ _ _ _
  | priceImpact pool token amount maximumBps =>
      refine justifies_bind (readImpact_justifies pool token amount) fun impact => ?_
      exact justifies_bind (justifies_ofEngine _) fun _ => condition_justifies _ _ _ _
  | custom predicate =>
      refine justifies_bind ?_ fun _ => condition_justifies _ _ _ _
      exact (test_ensures predicate).imp fun _ _ _ => trivial
  | swap venue pool token amount slippageBps minimumOut =>
      refine justifies_bind (gate rfl) fun _ => ?_
      refine justifies_bind (justifies_ofEngine _) fun _ => ?_
      refine justifies_bind (justifies_ofEngine _) fun settings => ?_
      refine justifies_bind (justifies_ofEngine _) fun slippage => ?_
      refine justifies_bind (justifies_ofEngine _) fun quoted => ?_
      have fromMinimum (least : ν) : Justifies blocks ctx
          (swapFor ctx b.id venue pool token amount slippage quoted least) := by
        refine justifies_bind (justifies_ofEngine _) fun fill => ?_
        refine justifies_bind (justifies_ofEngine _) fun gain => ?_
        exact justifies_bind (justifies_ofEngine _) fun trade => record_justifies _ _
      cases minimumOut with
      | some least => exact fromMinimum _
      | none => exact justifies_bind (justifies_ofEngine _) fromMinimum
  | deposit venue pool amount amountB | withdraw venue pool amount =>
      refine justifies_bind (gate rfl) fun _ => ?_
      refine justifies_bind (justifies_ofEngine _) fun _ => ?_
      refine justifies_bind (justifies_ofEngine _) fun _ => ?_
      exact justifies_bind (justifies_ofEngine _) fun trade => record_justifies _ _
  | loop first last budget => exact justifies_pure ()
  | exitAfter limit | exitOnLoss limit =>
      refine ensures_bind (Q := fun s m => m.state = s) (ensures_state fun _ _ => rfl) fun s => ?_
      refine ends _ _ fun m same said => ?_
      subst same
      simpa [Operation.ExitHolds] using said
  | exitCustom predicate =>
      exact ensures_bind (test_ensures predicate) fun holds => ends _ _ fun _ held said => held said

end Run

/-! ### The verdict -/

namespace Interpreter

variable {options : RunOptions ν} {blocks : List Block} {ctx : Context ν}

/-- Through all loops, the steps of a run stop with a justification only. -/
theorem steps_justified (options : RunOptions ν) (blocks : List Block) (ctx : Context ν)
    (maxIterations : ν) :
    Run.Justifies blocks ctx (steps options blocks ctx maxIterations) := by
  refine ensures_steps (fun _ _ _ _ => trivial) fun program made i member => ?_
  obtain ⟨b, listed, found, read⟩ := Program.block_of_mem made member
  have same : b.id = i.id := by simpa using List.find?_some found
  have announced : Run.Justifies blocks ctx (Run.announce i) :=
    Run.justifies_bind (Run.justifies_ofEngine _) fun _ => Run.justifies_ofEngine _
  refine ⟨fun _ => Run.justifies_bind announced fun _ => ?_, fun _ => announced,
    fun _ _ _ _ => Run.Ensures.strengthen ?_ fun _ _ => trivial⟩
  · rw [← same]
    exact Run.perform_justified options listed read
  · refine Run.justifies_bind (Run.justifies_update _) fun _ => ?_
    exact Run.justifies_bind (Run.ensures_state fun _ _ => trivial) fun _ =>
      Run.justifies_ofEngine _

/-- What explains the end of the steps explains the outcome that reports it. -/
theorem report_justified {ended : Except Stop Unit} {m : Machine ν} {outcome : RunReport}
    {after : World ν} (explained : ∀ stop, ended = .error stop → stop.Justified blocks ctx m)
    (reported : (report ended m.state).result m.world = (.ok outcome, after)) :
    outcome.Justified blocks ctx after.venues := by
  have noted := report_noted ended m.state m.world
  rw [reported] at noted
  rw [noted.venues]
  cases ended with
  | ok _ =>
      cases of_conclude_ok reported
      exact .completed m.state
  | error stop =>
      cases stop with
      | finished status reason =>
          cases of_conclude_ok reported
          exact explained _ rfl
      | fault f =>
          cases f with
          | failure e =>
              obtain ⟨_, _, _, reported⟩ := of_bind_ok reported
              cases of_conclude_ok reported
              exact .failed m.state e
          | refused | breakdown => cases reported

theorem justified_of_run {w after : World ν} {outcome : RunReport}
    (ran : (run options blocks ctx).result w = (.ok outcome, after)) :
    outcome.Justified blocks ctx after.venues := by
  obtain ⟨ended, machine, taken, reported⟩ := of_run ran
  refine report_justified (fun stop stopped => ?_) reported
  subst stopped
  exact (steps_justified options blocks ctx _).stopped trivial taken

/-- A run of a list that is refused comes to the report of the refusal at once. -/
theorem of_run_refused {f : Fault} {w after : World ν} {r : Except Fault RunReport}
    (refused : Block.validate w.settings.maxLoopIterations blocks = .error f)
    (ran : (run options blocks ctx).result w = (r, after)) :
    (report (.error (.fault f)) {}).result w = (r, after) := by
  obtain ⟨ended, machine, taken, reported⟩ := of_run ran
  have unread : Program.ofBlocks w.settings.maxLoopIterations blocks = .error f := by
    rw [Program.ofBlocks, refused]
    rfl
  rw [steps, Run.result_bind, Run.result_ofExcept, unread] at taken
  cases taken
  exact reported

/-- Every outcome is explained by the state that it tells and the venues that the run has left. A
    block list that is refused leaves an empty state and its refusal, and this outcome is given
    wherever the bound fields of the journal can be written. -/
theorem run_justified (options : RunOptions ν) (blocks : List Block) (ctx : Context ν)
    (w : World ν) :
    (∀ outcome after, (run options blocks ctx).result w = (.ok outcome, after) →
      outcome.Justified blocks ctx after.venues) ∧
    ∀ f, Block.validate w.settings.maxLoopIterations blocks = .error f →
      (∀ outcome after, (run options blocks ctx).result w = (.ok outcome, after) →
        ∃ e, f = .failure e ∧ outcome =
          { status := .aborted, state := {}, error := some e, reason := some e.code }) ∧
      ∀ e, f = .failure e → Json.fieldsWritable w.journal.bound = true →
        ∃ outcome after, (run options blocks ctx).result w = (.ok outcome, after) := by
  refine ⟨fun outcome after => justified_of_run, fun f refused => ⟨fun outcome after ran => ?_, ?_⟩⟩
  · have reported := of_run_refused refused ran
    cases f with
    | failure e =>
        obtain ⟨_, _, _, reported⟩ := of_bind_ok reported
        exact ⟨e, rfl, of_conclude_ok reported⟩
    | refused | breakdown => cases reported
  · rintro e rfl bound
    have nothing : Numeral.isWritable (0 : Nat) = true :=
      Numeral.isWritable_of_u64 (Int.le_refl 0) (by decide)
    obtain ⟨after, returned⟩ := report_returns_failure e {} bound nothing nothing
    exact ⟨_, after, (of_run_refused refused rfl).symm.trans returned⟩

set_option maxRecDepth 10000 in
/-- Too much was lost before the sale, and a loop has to stand behind what it repeats. -/
theorem lossySale_justified :
    (∃ s after, (run ⟨⟨0, 0⟩, 0⟩ lossySale (lossyContext lossyMetrics)).result lossyWorld =
        (.ok ⟨.aborted, s, none, some "risk_rejected"⟩, after) ∧
      Run.TurnedDown (lossyContext lossyMetrics) s 100) ∧
    ∃ e after, (run ⟨⟨0, 0⟩, 0⟩ Block.noonTwice.reverse (lossyContext .none)).result lossyWorld =
      (.ok ⟨.aborted, {}, some e, some e.code⟩, after) := by
  obtain ⟨explained, _⟩ :=
    run_justified ⟨⟨0, 0⟩, 0⟩ lossySale (lossyContext lossyMetrics) lossyWorld
  obtain ⟨_, empty⟩ :=
    run_justified ⟨⟨0, 0⟩, 0⟩ Block.noonTwice.reverse (lossyContext .none) lossyWorld
  constructor
  · let sale := FinishedRun.take _ _ _ _ lossySale_refused
    have told : sale.outcome.status = .aborted ∧ sale.outcome.error.isNone := by decide +kernel
    have justified := explained sale.outcome sale.after sale.ran
    have ran := sale.ran
    generalize sale.outcome = outcome at told justified ran
    cases justified with
    | completed | exited => cases told.1
    | failed => cases told.2
    | turnedDown s b amount member _ set refused =>
        cases List.mem_singleton.mp member
        cases set
        exact ⟨s, _, ran, refused⟩
  · obtain ⟨only, returns⟩ := empty _ rfl
    obtain ⟨outcome, after, ran⟩ := returns _ rfl rfl
    obtain ⟨e, _, rfl⟩ := only outcome after ran
    exact ⟨e, after, ran⟩

end Interpreter

end TradingEngine
