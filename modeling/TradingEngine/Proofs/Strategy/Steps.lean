import Mathlib.Algebra.BigOperators.Group.List.Basic
import TradingEngine.Proofs.Strategy.Ending
import TradingEngine.Proofs.Strategy.Wellformed
import TradingEngine.Proofs.Table

/-! # Step by step

What the single blocks of a program keep, every run of it keeps: a dispatch only goes back to blocks
that stand before it, so one induction on the position goes through all loops. A property of the
machine is carried from step to step; at a stop it may give way to another one that also tells of
the stop.
-/

namespace TradingEngine

open Engine Quantity

variable {ν α β : Type}

namespace Run

/-- From a machine with `P` the step goes on with a machine that has `Q`, or stops on one that
    has `E`. -/
structure Ensures (P : Machine ν → Prop) (step : Run ν α) (Q : α → Machine ν → Prop)
    (E : Stop → Machine ν → Prop) : Prop where
  done {m after : Machine ν} {a : α} : P m → step.result m = (.ok a, after) → Q a after
  stopped {m after : Machine ν} {stop : Stop} :
    P m → step.result m = (.error stop, after) → E stop after

section

variable {P : Machine ν → Prop} {Q : α → Machine ν → Prop} {E : Stop → Machine ν → Prop}

theorem ensures_pure {a : α} (h : ∀ m, P m → Q a m) : Ensures P (pure a : Run ν α) Q E where
  done held ended := by
    cases ended
    exact h _ held
  stopped _ ended := by cases ended

theorem ensures_bind {step : Run ν α} {next : α → Run ν β} {S : β → Machine ν → Prop}
    (first : Ensures P step Q E) (rest : ∀ a, Ensures (Q a) (next a) S E) :
    Ensures P (step >>= next) S E where
  done held ended := by
    obtain ⟨a, between, reached, ended⟩ := of_bind_ok ended
    exact (rest a).done (first.done held reached) ended
  stopped {m after stop} held ended := by
    rw [result_bind] at ended
    cases reached : step.result m with
    | mk r between =>
        rw [reached] at ended
        cases r with
        | ok a => exact (rest a).stopped (first.done held reached) ended
        | error s =>
            cases ended
            exact first.stopped held reached

theorem ensures_state {Q : RunState → Machine ν → Prop} (h : ∀ m, P m → Q m.state m) :
    Ensures P (state : Run ν RunState) Q E where
  done held ended := by
    cases ended
    exact h _ held
  stopped _ ended := by cases ended

theorem Ensures.imp {Q' : α → Machine ν → Prop} {step : Run ν α} (h : Ensures P step Q E)
    (weaker : ∀ a m, Q a m → Q' a m) : Ensures P step Q' E where
  done held ended := weaker _ _ (h.done held ended)
  stopped held ended := h.stopped held ended

theorem Ensures.strengthen {R : Machine ν → Prop} {step : Run ν α} (h : Ensures P step Q E)
    (stronger : ∀ m, R m → P m) : Ensures R step Q E where
  done held ended := h.done (stronger _ held) ended
  stopped held ended := h.stopped (stronger _ held) ended

/-- What is known before a step may be more than is needed, and more may be known after it. -/
theorem Ensures.framed {R S : Machine ν → Prop} {step : Run ν α} (h : Ensures P step Q E)
    (stronger : ∀ m, R m → P m) (kept : ∀ m, R m → S (step.result m).2) :
    Ensures R step (fun a m => Q a m ∧ S m) E where
  done {m after a} held ended := by
    have also := kept m held
    rw [ended] at also
    exact ⟨h.done (stronger m held) ended, also⟩
  stopped {m after stop} held ended := h.stopped (stronger m held) ended

theorem ensures_stop {step : Run ν α}
    (h : ∀ m, P m → ∃ stop after, step.result m = (.error stop, after) ∧ E stop after) :
    Ensures P step Q E where
  done held ended := by
    obtain ⟨_, _, stopped, _⟩ := h _ held
    cases stopped.symm.trans ended
  stopped held ended := by
    obtain ⟨_, _, stopped, reached⟩ := h _ held
    cases stopped.symm.trans ended
    exact reached

/-- What is known of the machine may include facts that are not about it. -/
theorem ensures_fact {fact : Prop} {step : Run ν α} (h : fact → Ensures P step Q E) :
    Ensures (fun m => fact ∧ P m) step Q E where
  done held := (h held.1).done held.2
  stopped held := (h held.1).stopped held.2

theorem ensures_ofEngine {op : Engine ν α}
    (ok : ∀ a m after, P m → op.result m.world = (.ok a, after) → Q a { m with world := after })
    (error : ∀ f m after, P m → op.result m.world = (.error f, after) →
      E (.fault f) { m with world := after }) : Ensures P (ofEngine op) Q E where
  done {m after a} held ended := by
    obtain ⟨reached, same⟩ := of_ofEngine_ok ended
    have := ok a m after.world held reached
    rwa [← same] at this
  stopped {m after stop} held ended := by
    rw [result_ofEngine] at ended
    cases reached : op.result m.world with
    | mk r world =>
        rw [reached] at ended
        cases r with
        | ok a => cases ended
        | error f =>
            cases ended
            exact error f m world held reached

theorem ensures_ofExcept {r : Except Fault α} (ok : ∀ a m, P m → r = .ok a → Q a m)
    (error : ∀ f m, P m → r = .error f → E (.fault f) m) :
    Ensures P (ofExcept r : Run ν α) Q E := by
  refine ensures_ofEngine (fun a m after held ended => ?_) fun f m after held ended => ?_
  · rw [Engine.result_ofExcept] at ended
    obtain ⟨made, rfl⟩ := Prod.mk.inj ended
    exact ok a m held made
  · rw [Engine.result_ofExcept] at ended
    obtain ⟨made, rfl⟩ := Prod.mk.inj ended
    exact error f m held made

theorem ensures_update {f : RunState → RunState} {Q : Unit → Machine ν → Prop}
    (h : ∀ m, P m → Q () { m with state := f m.state }) :
    Ensures P (update f : Run ν Unit) Q E where
  done held ended := by
    cases ended
    exact h _ held
  stopped _ ended := by cases ended

theorem ensures_log {level : Level} {event : Text} {fields : Fields}
    {Q : Unit → Machine ν → Prop}
    (ok : ∀ m journal, P m → m.world.journal.write level event fields = .ok journal →
      Q () { m with world.journal := journal })
    (error : ∀ m b, P m → m.world.journal.write level event fields = .error b →
      E (.fault (.breakdown b)) m) :
    Ensures P (log level event fields) Q E := by
  refine ensures_ofEngine (fun _ m after held ended => ?_) fun f m after held ended => ?_
  · rw [result_log] at ended
    cases written : m.world.journal.write level event fields with
    | ok journal =>
        rw [written] at ended
        cases ended
        exact ok m journal held written
    | error b =>
        rw [written] at ended
        cases ended
  · rw [result_log] at ended
    cases written : m.world.journal.write level event fields with
    | ok journal =>
        rw [written] at ended
        cases ended
    | error b =>
        rw [written] at ended
        cases ended
        exact error m b held written

/-- A step behind a test that refuses to go on. -/
theorem ensures_tested (satisfied : Bool) {cause : Cause} {next : Run ν α}
    (refused : Ensures P (fail cause : Run ν PUnit) (fun _ => P) E) (rest : Ensures P next Q E) :
    Ensures P (do
      if !satisfied then fail cause
      next) Q E := by
  cases satisfied with
  | true => exact rest
  | false => exact ensures_bind refused fun _ => rest

/-- A step that is taken again and again, each time with one fewer ahead of it. -/
theorem ensures_times {C : Nat → Machine ν → Prop} {step : Run ν Unit}
    (h : ∀ left, Ensures (C (left + 1)) step (fun _ => C left) E) (n : Nat) :
    Ensures (C n) (times n step) (fun _ => C 0) E := by
  induction n with
  | zero => exact ensures_pure fun _ held => held
  | succ n ih => exact ensures_bind (h n) fun _ => ih

theorem ensures_forM {ι : Type} {f : ι → Run ν PUnit} (xs : List ι)
    (each : ∀ x ∈ xs, Ensures P (f x) (fun _ => P) E) : Ensures P (forM xs f) (fun _ => P) E := by
  induction xs with
  | nil => exact ensures_pure fun _ held => held
  | cons x xs ih =>
      rw [List.forM_cons]
      refine ensures_bind (each x List.mem_cons_self) fun _ => ?_
      exact ih fun y member => each y (List.mem_cons_of_mem x member)

/-- A relation that a step keeps to carries a property along that can be carried along it. -/
theorem Within.ensures {R : Machine ν → Machine ν → Prop} {step : Run ν α} (h : Within R step)
    (carried : ∀ m after, R m after → P m → P after)
    (stopped : ∀ m after stop, stop.Early → R m after → P m → E stop after) :
    Ensures P step (fun _ => P) E where
  done {m after a} held ended := by
    have related := h.relates m
    rw [ended] at related
    exact carried m after related held
  stopped {m after stop} held ended := by
    have related := h.relates m
    have early := h.early m
    rw [ended] at related early
    exact stopped m after stop (early stop rfl) related held

end

/-! ### Bookkeeping -/

end Run

theorem RunState.cumulativeProfitLoss_of_flat {s : RunState}
    (flat : ∀ t ∈ s.trades, t.profitLoss = 0) : s.cumulativeProfitLoss = 0 := by
  refine List.sum_eq_zero fun n member => ?_
  obtain ⟨t, traded, rfl⟩ := List.mem_map.mp member
  exact flat t traded

/-- Between two machines was bookkeeping only: dispatches, iterations and prices were noted. -/
structure Machine.Booked (m after : Machine ν) : Prop where
  world : m.world.Journalled after.world
  executed : after.state.executedBlockIds = m.state.executedBlockIds
  trades : after.state.trades = m.state.trades

instance : Frame (Machine.Booked (ν := ν)) where
  refl _ := ⟨Frame.refl _, rfl, rfl⟩
  trans h k := ⟨Frame.trans h.world k.world, k.executed.trans h.executed, k.trades.trans h.trades⟩

theorem Machine.Quiet.booked {m after : Machine ν} (h : m.Quiet after) : m.Booked after :=
  ⟨World.Noted.journalled ⟨h.world, h.venues⟩, h.executed, h.trades⟩

namespace Run

theorem Within.booked {step : Run ν α} (h : Within Machine.Quiet step) :
    Within Machine.Booked step :=
  ⟨fun m => (h.relates m).booked, h.early⟩

theorem log_booked (level : Level) (event : Text) (fields : Fields) :
    Within Machine.Booked (log level event fields : Run ν Unit) where
  relates m := ⟨log_journalled level event fields m.world, rfl, rfl⟩
  early := early_ofEngine _

theorem startIteration_booked (block : Text) :
    Within Machine.Booked (startIteration block : Run ν Unit) := by
  have started : Within Machine.Booked (update (·.startIteration block) : Run ν Unit) :=
    ⟨fun m => ⟨Frame.refl _, rfl, rfl⟩, fun _ _ ended => by cases ended⟩
  refine within_bind started fun _ => within_bind within_state.booked fun s => ?_
  exact log_booked _ _ _

/-- How a block is announced when its turn comes. -/
def announce (i : Instruction) : Run ν Unit := do
  ofEngine (Engine.count (.blocksExecuted i.operation.type))
  log .debug Entry.dispatchEvent
    [("block_id", .text i.id), ("block_type", .text i.operation.type.name)]

theorem announce_booked (i : Instruction) : Within Machine.Booked (announce i : Run ν Unit) :=
  within_bind (within_ofEngine (count_noted _)).booked fun _ => log_booked _ _ _

/-! ### Dispatches -/

/-- No loop has counted between two machines. -/
def SameCounters (m after : Machine ν) : Prop := after.state.loopCounters = m.state.loopCounters

instance : Frame (SameCounters (ν := ν)) where
  refl _ := rfl
  trans h k := k.trans h

theorem ofEngine_counters (op : Engine ν α) : Within SameCounters (ofEngine op) where
  relates _ := rfl
  early := early_ofEngine op

theorem announce_counters (i : Instruction) : Within SameCounters (announce i : Run ν Unit) :=
  within_bind (ofEngine_counters _) fun _ => ofEngine_counters _

/-- An iteration is counted, whether it can be journalled or not. -/
theorem startIteration_counters (block : Text) (m : Machine ν) :
    ((startIteration block : Run ν Unit).result m).2.state.loopCounters =
      Table.put block (m.state.iterations block + 1) m.state.loopCounters := by
  simp only [startIteration]
  rw [result_bind, result_update]
  dsimp only
  rw [result_bind, result_state]
  rfl

variable [Quantity ν]

theorem perform_counters (options : RunOptions ν) (ctx : Context ν) (block : Text)
    (operation : Operation) : Within SameCounters (perform options ctx block operation) := by
  by_cases active : operation.type = .action
  · refine ⟨fun m => ?_, fun m stop ended => ?_⟩
    · obtain ⟨size, attempt⟩ := perform_attempt options ctx block operation active m
      exact attempt.counters
    · obtain ⟨size, attempt⟩ := perform_attempt options ctx block operation active m
      rw [← Prod.eta ((perform options ctx block operation).result m), ended] at attempt
      exact attempt.early
  · have quiet := perform_quiet options ctx block operation active
    exact ⟨fun m => (quiet.relates m).counters, quiet.early⟩

/-- What has to be known of a single block. A loop is announced, and then it goes back to other
    blocks as long as its budget allows; every other block is announced and performed. -/
structure Turn (options : RunOptions ν) (ctx : Context ν) (P : Machine ν → Prop)
    (E : Stop → Machine ν → Prop) (i : Instruction) : Prop where
  performed : i.operation.type ≠ .loop →
    Ensures P (announce i >>= fun _ => perform options ctx i.id i.operation) (fun _ => P) E
  repeated : i.operation.type = .loop → Ensures P (announce i) (fun _ => P) E
  started (first last : Nat) (budget : Int) : i.operation = .loop first last budget →
    Ensures (fun m => P m ∧ m.state.iterations i.id < budget) (startIteration i.id) (fun _ => P) E

variable {P : Machine ν → Prop} {E : Stop → Machine ν → Prop} {options : RunOptions ν}
  {ctx : Context ν} {program : Program}

/-- The turn of a block does not touch the counter of another one. -/
theorem Turn.framed {i : Instruction} (turn : Turn options ctx P E i) {block : Text}
    (other : i.id ≠ block) (S : Int → Prop) :
    Turn options ctx (fun m => P m ∧ S (m.state.iterations block)) E i where
  performed plain := by
    refine (turn.performed plain).framed (fun _ held => held.1) fun m held => ?_
    have same := (within_bind (announce_counters i) fun _ =>
      perform_counters options ctx i.id i.operation).relates m
    rw [RunState.iterations, same]
    exact held.2
  repeated loop := by
    refine (turn.repeated loop).framed (fun _ held => held.1) fun m held => ?_
    rw [RunState.iterations, (announce_counters i).relates m]
    exact held.2
  started first last budget loop := by
    refine (turn.started first last budget loop).framed (fun _ held => ⟨held.1.1, held.2⟩)
      fun m held => ?_
    rw [RunState.iterations, startIteration_counters, Table.get?_put_of_ne other]
    exact held.1.2

theorem dispatch_plain {position : Nat} {i : Instruction} (here : program[position]? = some i)
    (plain : i.operation.type ≠ .loop) :
    dispatch options ctx program position =
      announce i >>= fun _ => perform options ctx i.id i.operation := by
  obtain ⟨block, operation⟩ := i
  rw [dispatch, announce, bind_assoc]
  simp only [here]
  cases operation with
  | loop => exact absurd rfl plain
  | _ => rfl

theorem dispatch_repeating {position first last : Nat} {block : Text} {budget : Int}
    (here : program[position]? = some ⟨block, .loop first last budget⟩) :
    dispatch options ctx program position =
      (do
        announce ⟨block, .loop first last budget⟩
        let left := budget - (← state).iterations block
        times left.toNat do
          startIteration block
          (List.finRange position).forM fun earlier => do
            if first ≤ earlier.val && earlier.val ≤ last then
              dispatch options ctx program earlier.val) := by
  rw [dispatch, announce, bind_assoc]
  simp only [here]
  rfl

omit [Quantity ν] in
/-- A loop starts no more iterations than its budget allows, if its passes leave its counter
    alone. -/
theorem ensures_passes {block : Text} {budget : Int} {pass : Run ν PUnit}
    (started : Ensures (fun m => P m ∧ m.state.iterations block < budget)
      (startIteration block) (fun _ => P) E)
    (kept : ∀ k, Ensures (fun m => P m ∧ m.state.iterations block = k) pass
      (fun _ m => P m ∧ m.state.iterations block = k) E) :
    Ensures P (do
      let left := budget - (← state).iterations block
      times left.toNat do
        startIteration block
        pass) (fun _ => P) E := by
  let ahead (left : Nat) (m : Machine ν) : Prop := P m ∧ m.state.iterations block = budget - left
  have once (left : Nat) : Ensures (ahead (left + 1)) (do
      startIteration block
      pass) (fun _ => ahead left) E := by
    refine ensures_bind (started.framed ?_ fun m held => ?_) fun _ => kept (budget - left)
    · rintro m ⟨held, counted⟩
      exact ⟨held, by omega⟩
    · have counted := held.2
      rw [RunState.iterations, startIteration_counters, Table.get?_put_self, Option.getD_some]
      omega
  refine ensures_bind (Q := fun s m => m.state = s ∧ P m)
    (ensures_state fun m held => ⟨rfl, held⟩) fun s => ?_
  by_cases spent : budget ≤ s.iterations block
  · have none_left : (budget - s.iterations block).toNat = 0 := by omega
    simp only [none_left]
    exact ensures_pure fun m held => held.2
  · refine ((ensures_times once _).strengthen ?_).imp fun _ _ held => held.1
    rintro m ⟨rfl, held⟩
    exact ⟨held, by omega⟩

/-- A dispatch reaches other blocks only through a loop, and only those before it. None of them
    touches the counter of the loop, so every iteration that is started is within the budget. -/
theorem ensures_dispatch (distinct : (program.map (·.id)).Nodup) (position : Nat)
    (turns : ∀ q i, q ≤ position → program[q]? = some i → Turn options ctx P E i) :
    Ensures P (dispatch options ctx program position) (fun _ => P) E := by
  induction position using Nat.strongRecOn generalizing P with
  | ind position ih =>
      cases here : program[position]? with
      | none =>
          rw [dispatch]
          simp only [here]
          exact ensures_pure fun _ held => held
      | some i =>
          have turn := turns position i (Nat.le_refl position) here
          by_cases plain : i.operation.type = .loop
          · obtain ⟨block, operation⟩ := i
            cases operation with
            | loop first last budget =>
                rw [dispatch_repeating here]
                refine ensures_bind (turn.repeated rfl) fun _ => ?_
                refine ensures_passes (turn.started first last budget rfl) fun k =>
                  ensures_forM _ fun earlier _ => ?_
                split
                · refine ih earlier.val earlier.isLt fun q i before there => ?_
                  have inside := Nat.lt_of_le_of_lt before earlier.isLt
                  refine (turns q i (Nat.le_of_lt inside) there).framed (fun same => ?_) (· = k)
                  exact absurd (eq_of_same_key distinct there here same) (Nat.ne_of_lt inside)
                · exact ensures_pure fun _ held => held
            | _ => cases plain
          · rw [dispatch_plain here plain]
            exact turn.performed plain

theorem ensures_all (distinct : (program.map (·.id)).Nodup)
    (turns : ∀ i ∈ program, Turn options ctx P E i) :
    Ensures P (all options ctx program) (fun _ => P) E :=
  ensures_forM _ fun position _ => ensures_dispatch distinct position fun _ i _ here =>
    turns i (List.mem_of_getElem? here)

end Run

variable [Quantity ν] {P : Machine ν → Prop} {E : Stop → Machine ν → Prop}
  {options : RunOptions ν} {ctx : Context ν} {blocks : List Block} {maxIterations : ν}

/-- A run takes the turns of its program, unless its block list is refused. -/
theorem Interpreter.ensures_steps
    (refused : ∀ f m, P m → Program.ofBlocks maxIterations blocks = .error f → E (.fault f) m)
    (turns : ∀ program, Program.ofBlocks maxIterations blocks = .ok program →
      ∀ i ∈ program, Run.Turn options ctx P E i) :
    Run.Ensures P (steps options blocks ctx maxIterations) (fun _ => P) E := by
  let accepted (program : Program) (m : Machine ν) : Prop :=
    Program.ofBlocks maxIterations blocks = .ok program ∧ P m
  refine Run.ensures_bind (Q := accepted) ?_ fun program => ?_
  · exact Run.ensures_ofExcept (fun _ _ held made => ⟨made, held⟩) refused
  · exact Run.ensures_fact fun made =>
      Run.ensures_all (Program.ids_nodup_of_ofBlocks made) (turns program made)

end TradingEngine
