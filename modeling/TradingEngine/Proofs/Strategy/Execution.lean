import TradingEngine.Proofs.Strategy.Schedule
import TradingEngine.Proofs.Strategy.Steps

/-! # Runs follow their schedules

A run dispatches what the schedule of its block list says, in this order, and executes the actions
among it. `Follows` says so of any step of a run; what is to be done and how the counters have to
stand at the end are its parameters, so the claim about a chain of steps is put together from those
about its links.
-/

namespace TradingEngine

open Engine Quantity Block

variable {ν α : Type}

namespace Run

/-- How a step ends that has to dispatch the blocks `shown`, to execute the actions `acted` and to
    leave these counters. A step that stops has done the first of each. -/
inductive Follows (shown acted : List Text) (counters : List (Text × Int)) (m : Machine ν) :
    Except Stop α × Machine ν → Prop
  | done (a : α) (after : Machine ν) :
      after.world.journal.dispatches = m.world.journal.dispatches ++ shown →
      after.state.executedBlockIds = m.state.executedBlockIds ++ acted →
      after.state.loopCounters = counters →
        Follows shown acted counters m (.ok a, after)
  | stopped (stop : Stop) (after : Machine ν) (ran finished : List Text) :
      stop.Early → ran <+: shown → finished <+: acted →
      after.world.journal.dispatches = m.world.journal.dispatches ++ ran →
      after.state.executedBlockIds = m.state.executedBlockIds ++ finished →
        Follows shown acted counters m (.error stop, after)

section

variable {β : Type} {m : Machine ν} {shown acted laterShown laterActed : List Text}
  {between counters : List (Text × Int)}

/-- What was to be done by two steps is done by both together. -/
theorem follows_bind {step : Run ν α} {next : α → Run ν β}
    (first : Follows shown acted between m (step.result m))
    (rest : ∀ a now, now.state.loopCounters = between →
      Follows laterShown laterActed counters now ((next a).result now)) :
    Follows (shown ++ laterShown) (acted ++ laterActed) counters m
      ((step >>= next).result m) := by
  rw [result_bind]
  cases ended : step.result m with
  | mk r now =>
      rw [ended] at first
      cases first with
      | stopped stop _ ran finished early ranFirst finishedFirst dispatched executed =>
          exact .stopped stop now ran finished early (ranFirst.trans (List.prefix_append _ _))
            (finishedFirst.trans (List.prefix_append _ _)) dispatched executed
      | done a _ dispatched executed counted =>
          have second := rest a now counted
          cases reached : (next a).result now with
          | mk r after =>
              simp only [reached] at second ⊢
              cases second with
              | done b _ later further counted =>
                  refine .done b after ?_ ?_ counted
                  · rw [later, dispatched, List.append_assoc]
                  · rw [further, executed, List.append_assoc]
              | stopped stop _ ran finished early ranFirst finishedFirst later further =>
                  refine .stopped stop after (shown ++ ran) (acted ++ finished) early
                    ((List.prefix_append_right_inj _).mpr ranFirst)
                    ((List.prefix_append_right_inj _).mpr finishedFirst) ?_ ?_
                  · rw [later, dispatched, List.append_assoc]
                  · rw [further, executed, List.append_assoc]

/-- A step that records nothing has nothing to do. -/
theorem Within.follows {step : Run ν α} (quiet : Within Machine.Quiet step) (m : Machine ν) :
    Follows [] [] m.state.loopCounters m (step.result m) := by
  have related := quiet.relates m
  have early := quiet.early m
  cases ended : step.result m with
  | mk r after =>
      rw [ended] at related early
      have dispatched : after.world.journal.dispatches = m.world.journal.dispatches ++ [] := by
        rw [List.append_nil, related.world.dispatches]
      have executed : after.state.executedBlockIds = m.state.executedBlockIds ++ [] := by
        rw [List.append_nil, related.executed]
      cases r with
      | ok a => exact .done a after dispatched executed related.counters
      | error stop =>
          exact .stopped stop after [] [] (early stop rfl) (List.prefix_refl _)
            (List.prefix_refl _) dispatched executed

/-- However an action ends, it is executed at most once. -/
theorem Attempt.follows [Quantity ν] {ctx : Context ν} {block : Text} {size : Int}
    {r : Except Stop Unit × Machine ν} (h : Attempt ctx block size m r) :
    Follows [] [block] m.state.loopCounters m r := by
  cases h with
  | refused stop after early quiet =>
      refine .stopped stop after [] [] early (List.prefix_refl _) (List.nil_prefix) ?_ ?_
      · rw [List.append_nil, quiet.world.dispatches]
      · rw [List.append_nil, quiet.executed]
  | abandoned stop after early _ idle =>
      refine .stopped stop after [] [] early (List.prefix_refl _) (List.nil_prefix) ?_ ?_
      · rw [List.append_nil, idle.world.dispatches]
      · rw [List.append_nil, idle.executed]
  | recorded ended after trade early _ _ recorded =>
      have dispatched : after.world.journal.dispatches = m.world.journal.dispatches ++ [] := by
        rw [List.append_nil, recorded.world.dispatches]
      cases ended with
      | ok _ => exact .done _ after dispatched recorded.executed recorded.counters
      | error stop =>
          exact .stopped stop after [] [block] (early stop rfl) (List.prefix_refl _)
            (List.prefix_refl _) dispatched recorded.executed

end

/-! ### Repetition -/

/-- A step that is taken again and again, and each time counts one further. -/
theorem times_follows {shown acted : List Text} (counters : Nat → List (Text × Int))
    {step : Run ν Unit}
    (each : ∀ j now, now.state.loopCounters = counters j →
      Follows shown acted (counters (j + 1)) now (step.result now))
    (n j : Nat) {m : Machine ν} (counted : m.state.loopCounters = counters j) :
    Follows (List.replicate n shown).flatten (List.replicate n acted).flatten (counters (j + n)) m
      ((times n step).result m) := by
  induction n generalizing j m with
  | zero => exact .done () m (List.append_nil _).symm (List.append_nil _).symm counted
  | succ n ih =>
      have ahead : j + (n + 1) = j + 1 + n := by omega
      rw [List.replicate_succ, List.replicate_succ, List.flatten_cons, List.flatten_cons, ahead]
      exact follows_bind (each j m counted) fun _ now reached => ih (j + 1) reached

/-- Positions that are dispatched one after the other, while the counters stand still. -/
theorem forM_follows {blocks : List Block} {counters : List (Text × Int)} {f : Nat → Run ν PUnit}
    (positions : List Nat)
    (each : ∀ e ∈ positions, ∀ now, now.state.loopCounters = counters →
      Follows (idsAt blocks [e]) (actionsAt blocks [e]) counters now ((f e).result now))
    {m : Machine ν} (counted : m.state.loopCounters = counters) :
    Follows (idsAt blocks positions) (actionsAt blocks positions) counters m
      ((forM positions f).result m) := by
  induction positions generalizing m with
  | nil => exact .done () m (List.append_nil _).symm (List.append_nil _).symm counted
  | cons e rest ih =>
      rw [List.forM_cons, ← List.singleton_append, idsAt_append, actionsAt_append]
      refine follows_bind (each e List.mem_cons_self m counted) fun _ now reached => ?_
      exact ih (fun later member => each later (List.mem_cons_of_mem e member)) reached

/-- An iteration of a loop begins with the next number. -/
theorem startIteration_follows (block : Text) (m : Machine ν) :
    Follows [] [] (Table.put block (m.state.iterations block + 1) m.state.loopCounters) m
      ((startIteration block : Run ν Unit).result m) := by
  have counted : Follows [] [] (m.state.startIteration block).loopCounters m
      ((update (·.startIteration block) : Run ν Unit).result m) :=
    .done () _ (List.append_nil _).symm (List.append_nil _).symm rfl
  change Follows ([] ++ []) ([] ++ []) _ m _
  refine follows_bind counted fun _ now same => ?_
  have journalled : Within Machine.Quiet (do
      let s ← state
      log .debug "LOOP_ITERATION"
        [("block_id", .text block), ("iteration", .int (s.iterations block))] : Run ν Unit) :=
    within_bind within_state fun _ => within_log _ _ _ (by decide)
  have kept := journalled.follows now
  rw [same] at kept
  exact kept

/-! ### One dispatch -/

/-- The announcement of a block is the one entry by which its dispatch is known. -/
theorem announce_follows (i : Instruction) (m : Machine ν) :
    Follows [i.id] [] m.state.loopCounters m ((announce i : Run ν Unit).result m) := by
  have entered (now : Machine ν) : Follows [i.id] [] now.state.loopCounters now
      ((log .debug Entry.dispatchEvent [("block_id", .text i.id),
        ("block_type", .text i.operation.type.name)] : Run ν Unit).result now) := by
    rw [log, result_ofEngine, result_log]
    cases written : now.world.journal.write .debug Entry.dispatchEvent
        [("block_id", .text i.id), ("block_type", .text i.operation.type.name)] with
    | ok journal =>
        exact .done () _ (Journal.dispatches_write_dispatch written) (List.append_nil _).symm rfl
    | error b =>
        exact .stopped _ _ [] [] trivial List.nil_prefix (List.prefix_refl _)
          (List.append_nil _).symm (List.append_nil _).symm
  change Follows ([] ++ [i.id]) ([] ++ []) m.state.loopCounters m _
  refine follows_bind ((within_ofEngine (count_noted _)).follows m) fun _ now same => ?_
  rw [← same]
  exact entered now

/-- A block is announced, whatever it goes on to do. -/
theorem announced_follows (i : Instruction) {shown acted : List Text}
    {counters : List (Text × Int)} {rest : Run ν Unit} {m : Machine ν}
    (next : ∀ now, now.state.loopCounters = m.state.loopCounters →
      Follows shown acted counters now (rest.result now)) :
    Follows (i.id :: shown) acted counters m ((announce i >>= fun _ => rest).result m) := by
  change Follows ([i.id] ++ shown) ([] ++ acted) counters m _
  exact follows_bind (announce_follows i m) fun _ now same => next now same

theorem forM_filter {ι : Type} (kept : ι → Bool) (f : ι → Run ν PUnit) (xs : List ι) :
    (forM xs fun x => if kept x then f x else pure ()) = forM (xs.filter kept) f := by
  induction xs with
  | nil => rfl
  | cons x xs ih =>
      rw [List.forM_cons, ih]
      by_cases keep : kept x = true
      · rw [List.filter_cons_of_pos keep, List.forM_cons, if_pos keep]
      · rw [List.filter_cons_of_neg keep, if_neg keep, pure_bind]

/-- The positions of a range, picked out from all positions before some block. -/
theorem filter_range {first last position : Nat} (ordered : first ≤ last)
    (before : last < position) :
    (List.range position).filter (fun e => first ≤ e && e ≤ last) =
      List.range' first (last + 1 - first) := by
  have split : List.range position = List.range' 0 first ++
      List.range' first (last + 1 - first) ++ List.range' (last + 1) (position - (last + 1)) := by
    have front := List.range'_append_1 (s := 0) (m := first) (n := last + 1 - first)
    have whole := List.range'_append_1 (s := 0) (m := last + 1) (n := position - (last + 1))
    rw [Nat.zero_add] at front whole
    rw [front, Nat.add_sub_of_le (by omega), whole, Nat.add_sub_of_le (by omega),
      List.range_eq_range']
  have nothing (start count : Nat) (outside : ∀ e, start ≤ e → e < start + count →
      ¬(first ≤ e ∧ e ≤ last)) :
      (List.range' start count).filter (fun e => first ≤ e && e ≤ last) = [] := by
    rw [List.filter_eq_nil_iff]
    intro e member
    have bounds := List.mem_range'_1.mp member
    simpa using outside e bounds.1 bounds.2
  have all : (List.range' first (last + 1 - first)).filter (fun e => first ≤ e && e ≤ last) =
      List.range' first (last + 1 - first) := by
    rw [List.filter_eq_self]
    intro e member
    have bounds := List.mem_range'_1.mp member
    simp only [Bool.and_eq_true, decide_eq_true_eq]
    omega
  rw [split, List.filter_append, List.filter_append, nothing 0 first (by omega), all,
    nothing (last + 1) _ (by omega), List.nil_append, List.append_nil]

variable [Quantity ν]

/-- The part of a loop's dispatch that comes after its announcement: one pass over its range for
    each iteration that its budget still allows. -/
def repeats (options : RunOptions ν) (ctx : Context ν) (program : Program) (block : Text)
    (first last : Nat) (budget : Int) : Run ν Unit := do
  let left := budget - (← state).iterations block
  times left.toNat do
    startIteration block
    forM (List.range' first (last + 1 - first)) (dispatch options ctx program)

theorem dispatch_loop {options : RunOptions ν} {ctx : Context ν} {program : Program}
    {position first last : Nat} {block : Text} {budget : Int}
    (here : program[position]? = some ⟨block, .loop first last budget⟩) (ordered : first ≤ last)
    (before : last < position) :
    dispatch options ctx program position =
      announce ⟨block, .loop first last budget⟩ >>= fun _ =>
        repeats options ctx program block first last budget := by
  rw [dispatch_repeating here]
  have positions : (List.finRange position).map (·.val) = List.range position :=
    List.ext_getElem (by simp) (by simp)
  have pass := forM_filter (fun e : Nat => first ≤ e && e ≤ last)
    (dispatch options ctx program) (List.range position)
  rw [filter_range ordered before, ← positions, List.forM_map] at pass
  simp only [List.forM_eq_forM, pass, repeats]

/-- The blocks before a loop leave its counter alone. -/
theorem pass_keeps_counter (options : RunOptions ν) (ctx : Context ν) {program : Program}
    {position : Nat} {i : Instruction} (distinct : (program.map (·.id)).Nodup)
    (here : program[position]? = some i) (positions : List Nat)
    (before : ∀ e ∈ positions, e < position) (k : Int) :
    Ensures (fun m => m.state.iterations i.id = k)
      (forM positions (dispatch options ctx program))
      (fun _ m => m.state.iterations i.id = k) fun _ _ => True := by
  have anything (q : Instruction) : Turn options ctx (fun _ => True) (fun _ _ => True) q :=
    ⟨fun _ => ⟨fun _ _ => trivial, fun _ _ => trivial⟩,
      fun _ => ⟨fun _ _ => trivial, fun _ _ => trivial⟩,
      fun _ _ _ _ => ⟨fun _ _ => trivial, fun _ _ => trivial⟩⟩
  refine ((ensures_forM positions fun e member => ensures_dispatch distinct e
    fun q j least there => (anything j).framed (fun same => ?_) (· = k)).strengthen
      fun _ held => ⟨trivial, held⟩).imp fun _ _ held => held.2
  have earlier := Nat.lt_of_le_of_lt least (before e member)
  exact absurd (eq_of_same_key distinct there here same) (Nat.ne_of_lt earlier)

/-- A loop looks at its counter before each of its passes. How many passes are left is thus settled
    when its turn comes, for nothing else moves the counter. -/
theorem repeats_again (options : RunOptions ν) (ctx : Context ν) {program : Program}
    {position first last : Nat} {block : Text} {budget : Int}
    (distinct : (program.map (·.id)).Nodup)
    (here : program[position]? = some ⟨block, .loop first last budget⟩) (before : last < position) :
    repeats options ctx program block first last budget = (do
      if (← state).iterations block < budget then
        startIteration block
        forM (List.range' first (last + 1 - first)) (dispatch options ctx program)
        repeats options ctx program block first last budget) := by
  refine ExceptT.ext (funext fun m => ?_)
  change Run.result _ m = Run.result _ m
  simp only [repeats, result_bind, result_state]
  by_cases left : m.state.iterations block < budget
  · obtain ⟨n, ahead⟩ : ∃ n : Nat, (budget - m.state.iterations block).toNat = n + 1 :=
      ⟨(budget - m.state.iterations block).toNat - 1, by omega⟩
    simp only [if_pos left, ahead, times, result_bind, result_state]
    have counted : ((startIteration block : Run ν Unit).result m).2.state.iterations block =
        m.state.iterations block + 1 := by
      rw [RunState.iterations, startIteration_counters, Table.get?_put_self, Option.getD_some]
    generalize (startIteration block : Run ν Unit).result m = started at counted
    obtain ⟨_ | _, now⟩ := started
    · rfl
    · dsimp only at counted ⊢
      cases passed : (forM (List.range' first (last + 1 - first))
          (dispatch options ctx program)).result now with
      | mk r after =>
          cases r with
          | error stop => rfl
          | ok _ =>
              have kept : after.state.iterations block = m.state.iterations block + 1 :=
                (pass_keeps_counter options ctx distinct here _ (fun e member => by
                  have := List.mem_range'_1.mp member
                  omega) _).done counted passed
              have rest : (budget - after.state.iterations block).toNat = n := by omega
              dsimp only
              rw [rest]
  · have nothing : (budget - m.state.iterations block).toNat = 0 := by omega
    rw [if_neg left, nothing]
    rfl

section

variable (options : RunOptions ν) (ctx : Context ν) {blocks : List Block} {program : Program}
  {position : Nat} {b : Block}

/-- A block that is no loop is dispatched, and executed if it is an action. -/
theorem plain_follows (reads : Program.Reads blocks program) (here : blocks[position]? = some b)
    (plain : b.loop? blocks = none) (m : Machine ν) :
    Follows [b.id] (actionsAt blocks [position]) m.state.loopCounters m
      ((dispatch options ctx program position).result m) := by
  obtain ⟨operation, placed, type, loop⟩ := reads.place position b here
  have other : operation.type ≠ .loop := by
    intro looping
    cases operation <;> cases looping
    cases loop.trans plain
  rw [dispatch_plain placed other]
  refine announced_follows ⟨b.id, operation⟩ fun now same => ?_
  rw [← same]
  by_cases action : b.type = .action
  · rw [actionsAt_action here action]
    obtain ⟨size, attempt⟩ := perform_attempt options ctx b.id operation (type.trans action) now
    exact attempt.follows
  · rw [actionsAt_other here action]
    refine (perform_quiet options ctx b.id operation ?_).follows now
    rw [type]
    exact action

/-- A loop is dispatched, and then it repeats its range. -/
theorem loop_follows (fit : Wellformed blocks) (reads : Program.Reads blocks program)
    (here : blocks[position]? = some b) {first last : Nat} {budget : Int}
    (loop : b.loop? blocks = some (first, last, budget)) {shown acted : List Text}
    {counters : List (Text × Int)} {m : Machine ν}
    (repeated : first ≤ last → last < position →
      ∀ now, now.state.loopCounters = m.state.loopCounters → Follows shown acted counters now
        ((repeats options ctx program b.id first last budget).result now)) :
    Follows (b.id :: shown) acted counters m
      ((dispatch options ctx program position).result m) := by
  obtain ⟨operation, placed, _, same⟩ := reads.place position b here
  obtain ⟨_, _, _, found, ordered, before⟩ := fit.earlier position b here (type_of_loop? loop)
  cases loop.symm.trans found
  cases operation with
  | loop =>
      cases same.trans loop
      rw [dispatch_loop placed ordered before]
      exact announced_follows ⟨b.id, _⟩ (repeated ordered before)
  | _ => cases same.trans loop

/-- A block that stands before a loop is dispatched once on each of its passes: if it is a loop
    itself, it has used up its budget. -/
theorem again_follows (fit : Wellformed blocks) (reads : Program.Reads blocks program)
    {count : Nat} {counters : List (Text × Int)} (used : UsedUp blocks count counters)
    (here : blocks[position]? = some b) (before : position < count) {m : Machine ν}
    (counted : m.state.loopCounters = counters) :
    Follows (idsAt blocks [position]) (actionsAt blocks [position]) counters m
      ((dispatch options ctx program position).result m) := by
  rw [idsAt_single here]
  cases loop : b.loop? blocks with
  | none =>
      rw [← counted]
      exact plain_follows options ctx reads here loop m
  | some row =>
      obtain ⟨first, last, budget⟩ := row
      have noAction : b.type ≠ .action := by
        rw [type_of_loop? loop]
        decide
      rw [actionsAt_other here noAction]
      refine loop_follows options ctx fit reads here loop fun _ _ now same => ?_
      have spent := used position b first last budget before here loop
      have none_left : (budget - now.state.iterations b.id).toNat = 0 := by
        rw [RunState.iterations, same, counted]
        omega
      have nothing : (repeats options ctx program b.id first last budget).result now =
          (.ok (), now) := by
        simp only [repeats, result_bind, result_state, none_left]
        rfl
      rw [nothing, ← counted, ← same]
      exact .done () now (List.append_nil _).symm (List.append_nil _).symm rfl

/-! ### The iterations of a loop -/

/-- The counters after `j` iterations of a loop that had none before. -/
def iterated (block : Text) (counters : List (Text × Int)) (j : Nat) : List (Text × Int) :=
  if j = 0 then counters else Table.put block j counters

theorem iterations_iterated {block : Text} {counters : List (Text × Int)}
    (fresh : Table.get? block counters = none) (j : Nat) :
    (Table.get? block (iterated block counters j)).getD 0 = j := by
  unfold iterated
  split
  · rw [fresh]
    simp_all
  · rw [Table.get?_put_self]
    rfl

theorem put_iterated (block : Text) (counters : List (Text × Int)) (j : Nat) :
    Table.put block ((j : Int) + 1) (iterated block counters j) =
      iterated block counters (j + 1) := by
  unfold iterated
  rw [if_neg (Nat.succ_ne_zero j)]
  split
  · rfl
  · exact Table.put_put _ _ _ _

/-- One iteration of a loop: a pass over its range, on which the loops before it repeat nothing. -/
theorem iteration_follows (fit : Wellformed blocks) (reads : Program.Reads blocks program)
    (here : blocks[position]? = some b) (first : Nat) {last : Nat} (before : last < position)
    (fresh : Table.get? b.id (spentTo blocks position) = none) (j : Nat) {m : Machine ν}
    (counted : m.state.loopCounters = iterated b.id (spentTo blocks position) j) :
    Follows (idsAt blocks (List.range' first (last + 1 - first)))
      (actionsAt blocks (List.range' first (last + 1 - first)))
      (iterated b.id (spentTo blocks position) (j + 1)) m
      ((do
        startIteration b.id
        forM (List.range' first (last + 1 - first)) (dispatch options ctx program) :
          Run ν Unit).result m) := by
  have started := startIteration_follows b.id m
  rw [RunState.iterations, counted, iterations_iterated fresh, put_iterated] at started
  have used : UsedUp blocks position (iterated b.id (spentTo blocks position) (j + 1)) := by
    rw [iterated, if_neg (Nat.succ_ne_zero j)]
    exact (usedUp_spentTo fit.distinct position).put fit.distinct here _
  refine follows_bind started fun _ now reached => ?_
  refine forM_follows _ (fun e member later same => ?_) reached
  have bounds := List.mem_range'_1.mp member
  have inside : e < blocks.length := by
    have := (List.getElem?_eq_some_iff.mp here).1
    omega
  exact again_follows options ctx fit reads used (List.getElem?_eq_getElem inside) (by omega) same

/-- What a loop repeats when its turn comes: a pass for each iteration of its budget. -/
theorem repeats_follows (fit : Wellformed blocks) (reads : Program.Reads blocks program)
    (here : blocks[position]? = some b) (first : Nat) {last : Nat} (before : last < position)
    (budget : Int) {m : Machine ν} (counted : m.state.loopCounters = spentTo blocks position) :
    Follows
      (List.replicate budget.toNat
        (idsAt blocks (List.range' first (last + 1 - first)))).flatten
      (List.replicate budget.toNat
        (actionsAt blocks (List.range' first (last + 1 - first)))).flatten
      (iterated b.id (spentTo blocks position) budget.toNat) m
      ((repeats options ctx program b.id first last budget).result m) := by
  have fresh := Table.get?_eq_none (fresh_spentTo fit.distinct here (Nat.le_refl position))
  have left : (budget - m.state.iterations b.id).toNat = budget.toNat := by
    rw [RunState.iterations, counted, fresh]
    exact congrArg Int.toNat (Int.sub_zero budget)
  have repeated := times_follows (iterated b.id (spentTo blocks position))
    (fun j _ => iteration_follows options ctx fit reads here first before fresh j)
    budget.toNat 0 counted
  rw [Nat.zero_add] at repeated
  simpa only [repeats, result_bind, result_state, left] using repeated

/-- A loop that has made its passes has the counter of its budget, if it made any. -/
theorem iterated_budget {first last : Nat} {budget : Int} {counters : List (Text × Int)}
    (fresh : b.id ∉ counters.map (·.1)) (loop : b.loop? blocks = some (first, last, budget)) :
    iterated b.id counters budget.toNat = counters ++ (b.spent? blocks).toList := by
  simp only [iterated, spent?, loop]
  by_cases repeated : 1 ≤ budget
  · have whole : (budget.toNat : Int) = budget := Int.toNat_of_nonneg (by omega)
    have appended := Table.put_append fresh budget []
    rw [if_pos repeated, if_neg (by omega), whole]
    rw [List.append_nil] at appended
    exact appended
  · rw [if_neg repeated, if_pos (by omega)]
    exact (List.append_nil _).symm

/-! ### The whole run -/

/-- The turn of a block in the program brings about what the schedule says. -/
theorem turn_follows (fit : Wellformed blocks) (reads : Program.Reads blocks program)
    (here : blocks[position]? = some b) {m : Machine ν}
    (counted : m.state.loopCounters = spentTo blocks position) :
    Follows (idsAt blocks (position :: b.passes blocks))
      (actionsAt blocks (position :: b.passes blocks)) (spentTo blocks (position + 1)) m
      ((dispatch options ctx program position).result m) := by
  rw [← List.singleton_append, idsAt_append, actionsAt_append, idsAt_single here,
    spentTo_succ here]
  cases loop : b.loop? blocks with
  | none =>
      have noPass : b.passes blocks = [] := by simp only [passes, loop]
      have noCounter : b.spent? blocks = none := by simp only [spent?, loop]
      rw [noPass, noCounter, ← counted]
      change Follows ([b.id] ++ []) (actionsAt blocks [position] ++ [])
        (m.state.loopCounters ++ []) m _
      rw [List.append_nil, List.append_nil, List.append_nil]
      exact plain_follows options ctx reads here loop m
  | some row =>
      obtain ⟨first, last, budget⟩ := row
      have noAction : b.type ≠ .action := by
        rw [type_of_loop? loop]
        decide
      have fresh := fresh_spentTo fit.distinct here (Nat.le_refl position)
      rw [actionsAt_other here noAction, idsAt_passes loop, actionsAt_passes loop,
        ← iterated_budget fresh loop]
      refine loop_follows options ctx fit reads here loop fun _ before now same => ?_
      exact repeats_follows options ctx fit reads here first before budget (same.trans counted)

theorem turns_follow (fit : Wellformed blocks) (reads : Program.Reads blocks program)
    (count : Nat) (inside : count ≤ blocks.length) {m : Machine ν}
    (counted : m.state.loopCounters = []) :
    Follows (idsAt blocks (scheduleTo blocks count)) (actionsAt blocks (scheduleTo blocks count))
      (spentTo blocks count) m
      ((forM (List.range count) (dispatch options ctx program)).result m) := by
  induction count with
  | zero => exact .done () m (List.append_nil _).symm (List.append_nil _).symm counted
  | succ count ih =>
      have here := List.getElem?_eq_getElem (Nat.lt_of_succ_le inside)
      rw [List.range_succ, List.forM_append, scheduleTo_succ here, idsAt_append,
        actionsAt_append]
      refine follows_bind (ih (Nat.le_of_succ_le inside)) fun _ now reached => ?_
      rw [List.forM_cons, List.forM_nil, bind_pure_unit]
      exact turn_follows options ctx fit reads here reached

theorem all_follows (fit : Wellformed blocks) (reads : Program.Reads blocks program)
    {m : Machine ν} (counted : m.state.loopCounters = []) :
    Follows (idsAt blocks (schedule blocks)) (actionsAt blocks (schedule blocks)) (spent blocks) m
      ((all options ctx program).result m) := by
  rw [← scheduleTo_length, ← spentTo_length, all, reads.length]
  exact turns_follow options ctx fit reads blocks.length (Nat.le_refl _) counted

end

end Run

/-- The steps of a run on an accepted block list follow its schedule. -/
theorem Interpreter.steps_follow [Quantity ν] (options : RunOptions ν) (ctx : Context ν)
    {blocks : List Block} {maxIterations : ν} {index : List (Text × Nat)}
    (accepted : validate maxIterations blocks = .ok index) (w : World ν) :
    Run.Follows (idsAt blocks (schedule blocks)) (actionsAt blocks (schedule blocks))
      (spent blocks) ⟨w, {}⟩ ((steps options blocks ctx maxIterations).result ⟨w, {}⟩) := by
  have fit := wellformed_of_validate accepted
  rw [steps, Run.result_bind, Run.result_ofExcept]
  cases read : Program.ofBlocks maxIterations blocks with
  | error f =>
      exact .stopped _ _ [] [] trivial List.nil_prefix List.nil_prefix
        (List.append_nil _).symm (List.append_nil _).symm
  | ok program =>
      exact Run.all_follows options ctx fit (Program.reads_of_ofBlocks fit.distinct read) rfl

/-- Every run on an accepted block list dispatches a beginning of the schedule, whatever the nesting
    of its loops, and so it ends after no more dispatches than the budgets of the loops pay for. The
    actions that it executes are the first of those in the schedule. A completed run has gone
    through all of it, and its counters are those of the loops that repeat anything. -/
theorem Interpreter.run_follows_schedule [Quantity ν] (options : RunOptions ν)
    (blocks : List Block) (ctx : Context ν) (w after : World ν) (ended : Except Fault RunReport)
    (index : List (Text × Nat))
    (accepted : validate w.settings.maxLoopIterations blocks = .ok index)
    (ran : (run options blocks ctx).result w = (ended, after)) :
    ∃ dispatched : List Nat,
      after.journal.dispatches = w.journal.dispatches ++ idsAt blocks dispatched ∧
      dispatched <+: schedule blocks ∧
      dispatched.length ≤ blocks.length + (blocks.map (repetitions blocks)).sum ∧
      ∀ outcome, ended = .ok outcome →
        outcome.state.executedBlockIds <+: actionsAt blocks (schedule blocks) ∧
        (outcome.status = .completed →
          dispatched = schedule blocks ∧
          outcome.state.executedBlockIds = actionsAt blocks (schedule blocks) ∧
          outcome.state.loopCounters = spent blocks) := by
  have follows := steps_follow options ctx accepted w
  obtain ⟨stopped, machine, taken, reported⟩ := of_run ran
  have noted := report_noted stopped machine.state machine.world
  rw [reported] at noted
  rw [taken] at follows
  cases follows with
  | done _ _ shown executed counted =>
      refine ⟨schedule blocks, noted.dispatches.trans shown, List.prefix_refl _,
        Nat.le_of_eq (length_schedule blocks), ?_⟩
      rintro outcome rfl
      obtain ⟨same, _⟩ := of_report_ok reported (fun _ h => nomatch h)
      rw [same, executed]
      exact ⟨List.prefix_refl _, fun _ => ⟨rfl, rfl, counted⟩⟩
  | stopped stop _ _ finished early shownFirst finishedFirst shown executed =>
      obtain ⟨positions, first, rfl⟩ := List.prefix_filterMap_iff.mp shownFirst
      refine ⟨positions, noted.dispatches.trans shown, first, ?_, ?_⟩
      · rw [← length_schedule]
        exact first.length_le
      · rintro outcome rfl
        obtain ⟨same, completed⟩ := of_report_ok reported fun _ h => by cases h; exact early
        rw [same, executed]
        exact ⟨finishedFirst, fun h => nomatch completed h⟩

/-- A trigger, a loop over it, and a loop over both. -/
def nestedLoops : List Block :=
  [{ id := "start", type := .trigger, triggerType := some .time,
     parameters := { notBefore := some 0 } },
   { id := "inner", type := .loop,
     parameters := { loopStart := some "start", loopEnd := some "start",
                     maxIterations := some 2 } },
   { id := "outer", type := .loop,
     parameters := { loopStart := some "start", loopEnd := some "inner",
                     maxIterations := some 2 } }]

/-- The inner loop repeats nothing on the passes of the outer one. -/
example : schedule nestedLoops = [0, 1, 0, 0, 2, 0, 1, 0, 1] := by decide

/-- A context in which nothing can be traded. -/
def emptyContext : Context Int :=
  { oracle := { now := 0 }, risk := { maxTradeSize := 0, dailyLossLimit := 0 }, metrics := .none,
    now := 0 }

/-- The run on a world that has journalled nothing yet. -/
def nestedRun : Except Fault RunReport × World Int :=
  (Interpreter.run ⟨⟨0, 0⟩, 0⟩ nestedLoops emptyContext).result { settings := .standard }

set_option maxRecDepth 10000 in
theorem Interpreter.nestedLoops_follow_schedule :
    nestedRun.2.journal.dispatches = idsAt nestedLoops (schedule nestedLoops) ∧
      nestedRun.1.toOption.map (·.state.loopCounters) = some (spent nestedLoops) := by
  have accepted : validate (Settings.standard (ν := Int)).maxLoopIterations nestedLoops =
      .ok [("start", 0), ("inner", 1), ("outer", 2)] := by rfl
  have completes : nestedRun.1.toOption.map (·.status) = some .completed := by
    decide +kernel
  obtain ⟨outcome, returned, status⟩ := Option.map_eq_some_iff.mp completes
  obtain ⟨dispatched, shown, _, _, finished⟩ := run_follows_schedule ⟨⟨0, 0⟩, 0⟩ nestedLoops
    emptyContext { settings := .standard } nestedRun.2 nestedRun.1 _ accepted rfl
  obtain ⟨whole, _, counters⟩ := (finished outcome (Except.of_toOption returned)).2 status
  rw [shown, whole, returned, Option.map_some, counters]
  exact ⟨rfl, rfl⟩

end TradingEngine
