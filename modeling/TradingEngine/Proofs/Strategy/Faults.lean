import TradingEngine.Proofs.Settings
import TradingEngine.Proofs.Strategy.Wellformed
import TradingEngine.Proofs.Table

/-! # What is wrong with a block list

The faults that validation lists, as they are on whole numbers, and the block lists that have none:
validation accepts exactly those. An accepted list is indexed one to one, and what is said of a
refused one shows no number but the bound on iterations.
-/

namespace TradingEngine

open Quantity

namespace BlockProblem

/-- A fault shows no number but the bound on iterations. -/
def Shows (most : Int) (problem : BlockProblem) : Prop :=
  ∀ v ∈ problem.shownValues, v = .int most

theorem shows_of_silent {most : Int} {problem : BlockProblem} (silent : problem.shownValues = []) :
    problem.Shows most := by
  rw [Shows, silent]
  exact List.forall_mem_nil _

end BlockProblem

namespace Block

variable {most : Int} {blocks : List Block} {b : Block} {position : Nat}

/-! ### The faults of a list -/

/-- What is wrong with the number of iterations of a loop. -/
def budgetFaults (most : Int) (b : Block) : List BlockProblem :=
  match b.parameters.maxIterations with
  | some n => if most < n then [.tooManyIterations b.id (.int most)] else []
  | none => []

/-- The faults of a block as a loop, if it is one. -/
def loopFaults (most : Int) (blocks : List Block) (b : Block) (position : Nat) :
    List BlockProblem :=
  if b.type = .loop then rangeProblems blocks position b ++ budgetFaults most b else []

/-- The faults of a block list. -/
def faults (most : Int) (blocks : List Block) : List BlockProblem :=
  problemsFrom [] blocks ++
    (blocks.zipIdx.map fun row => loopFaults most blocks row.1 row.2).flatten

theorem loopProblems_int (most : Int) (blocks : List Block) (b : Block) (position : Nat) :
    loopProblems most blocks b position = .ok (loopFaults most blocks b position) := by
  have budget : iterationProblems most b = .ok (budgetFaults most b) := by
    unfold iterationProblems budgetFaults
    cases b.parameters.maxIterations with
    | none => rfl
    | some n =>
        simp only [held_int, Except.ok_bind, lt_int, ofInt_int, decide_eq_true_eq]
        split <;> rfl
  unfold loopProblems loopFaults
  split
  · rw [budget]
    rfl
  · rfl

theorem problems_int (most : Int) (blocks : List Block) :
    problems most blocks = .ok (faults most blocks) := by
  have judged : (blocks.zipIdx.mapM fun row => loopProblems most blocks row.1 row.2) =
      .ok (blocks.zipIdx.map fun row => loopFaults most blocks row.1 row.2) := by
    simp only [loopProblems_int]
    exact List.mapM_pure
  unfold problems
  rw [judged]
  rfl

theorem validate_int (most : Int) (blocks : List Block) :
    validate most blocks =
      if faults most blocks = [] then .ok (blocks.zipIdx.map fun (b, position) => (b.id, position))
      else refuse (.malformedProgram (faults most blocks)) := by
  rw [validate, problems_int, Except.ok_bind]
  cases faults most blocks <;> rfl

/-! ### What the faults show -/

theorem ownProblems_show (b : Block) : ∀ problem ∈ b.ownProblems, problem.Shows most := by
  intro problem member
  unfold ownProblems at member
  split at member
  · rcases List.mem_singleton.mp member with rfl
    exact BlockProblem.shows_of_silent rfl
  · rcases List.mem_append.mp member with missing | unbounded
    · obtain ⟨p, _, rfl⟩ := List.mem_map.mp missing
      exact BlockProblem.shows_of_silent rfl
    · split at unbounded
      · rcases List.mem_singleton.mp unbounded with rfl
        exact BlockProblem.shows_of_silent rfl
      · cases unbounded

theorem problemsFrom_show (seen : List Text) (blocks : List Block) :
    ∀ problem ∈ problemsFrom seen blocks, problem.Shows most := by
  induction blocks generalizing seen with
  | nil => exact List.forall_mem_nil _
  | cons b rest ih =>
      intro problem member
      rw [problemsFrom] at member
      rcases List.mem_append.mp member with first | later
      · rcases List.mem_append.mp first with doubled | own
        · split at doubled
          · rcases List.mem_singleton.mp doubled with rfl
            exact BlockProblem.shows_of_silent rfl
          · cases doubled
        · exact ownProblems_show b problem own
      · exact ih (b.id :: seen) problem later

theorem rangeProblems_show (blocks : List Block) (position : Nat) (b : Block) :
    ∀ problem ∈ rangeProblems blocks position b, problem.Shows most := by
  intro problem member
  refine BlockProblem.shows_of_silent ?_
  simp only [rangeProblems, List.mem_append] at member
  rcases member with (start | stop) | range
  · split at start
    · rw [List.mem_singleton.mp start]
      rfl
    · cases start
  · split at stop
    · rw [List.mem_singleton.mp stop]
      rfl
    · cases stop
  · split at range
    · split at range
      · cases range
      · rw [List.mem_singleton.mp range]
        rfl
    · cases range

theorem budgetFaults_show (b : Block) :
    ∀ problem ∈ budgetFaults most b, problem.Shows most := by
  intro problem member
  unfold budgetFaults at member
  split at member
  · split at member
    · rcases List.mem_singleton.mp member with rfl
      exact fun v shown => List.mem_singleton.mp shown
    · cases member
  · cases member

theorem faults_show (most : Int) (blocks : List Block) :
    ∀ problem ∈ faults most blocks, problem.Shows most := by
  intro problem member
  rcases List.mem_append.mp member with own | ofLoop
  · exact problemsFrom_show [] blocks problem own
  · obtain ⟨found, among, inside⟩ := List.mem_flatten.mp ofLoop
    obtain ⟨row, _, rfl⟩ := List.mem_map.mp among
    unfold loopFaults at inside
    split at inside
    · rcases List.mem_append.mp inside with range | budget
      · exact rangeProblems_show blocks row.2 row.1 problem range
      · exact budgetFaults_show row.1 problem budget
    · cases inside

/-- A refusal can be put into words if the bound on iterations can be written. -/
theorem faults_writable (blocks : List Block) (bound : Numeral.isWritable most = true) :
    Json.allWritable (Cause.malformedProgram (faults most blocks)).shownValues = true := by
  refine Json.allWritable_of_mem fun v shown => ?_
  obtain ⟨problem, member, shown⟩ := List.mem_flatMap.mp shown
  rw [faults_show most blocks problem member v shown]
  exact bound

/-! ### Lists without faults -/

/-- A loop at `position` names the first and the last block of a range that ends before it, and
    repeats the range no more often than it may. -/
def RepeatsEarlier (most : Int) (blocks : List Block) (position : Nat) (b : Block) : Prop :=
  ∃ s e first last n, blocks[s]? = some first ∧ blocks[e]? = some last ∧
    b.parameters.loopStart = some first.id ∧ b.parameters.loopEnd = some last.id ∧
    s ≤ e ∧ e < position ∧ b.parameters.maxIterations = some n ∧ n ≤ most

/-- A block list with nothing wrong about it. -/
structure Faultless (most : Int) (blocks : List Block) : Prop where
  distinct : (blocks.map (·.id)).Nodup
  typed : ∀ b ∈ blocks, b.type ≠ .loop → b.subType?.isSome
  complete : ∀ b ∈ blocks, ∀ form, b.form? = some form →
    ∀ p ∈ form.required, p.isSet b.parameters = true
  timed : ∀ b ∈ blocks, b.form? = some (.trigger .time) →
    b.parameters.notBefore.isSome ∨ b.parameters.notAfter.isSome
  earlier (position : Nat) (b : Block) : blocks[position]? = some b → b.type = .loop →
    b.RepeatsEarlier most blocks position

/-- The one-to-one index of a block list: every id has one row, which holds its position, and every
    position is in it. -/
structure Indexes (blocks : List Block) (index : List (Text × Nat)) : Prop where
  distinct : (index.map (·.1)).Nodup
  positions : index.map (·.2) = List.range blocks.length
  found : ∀ id p, Table.get? id index = some p ↔ ∃ b, blocks[p]? = some b ∧ b.id = id

theorem form?_isSome_iff : b.form?.isSome ↔ b.type ≠ .loop → b.subType?.isSome := by
  rw [subType?]
  cases read : b.form? with
  | none =>
      constructor
      · rintro ⟨⟩
      · intro typed
        refine typed fun loop => ?_
        rw [form?_of_loop loop] at read
        cases read
  | some form =>
      refine iff_of_true rfl fun other => ?_
      cases form with
      | loop => exact absurd (type_of_form? read) other
      | trigger type | condition type | action type | exit type => rfl

theorem position?_eq_some_iff (distinct : (blocks.map (·.id)).Nodup) {id : Text} {p : Nat} :
    position? id blocks = some p ↔ ∃ b, blocks[p]? = some b ∧ b.id = id := by
  rw [position?_eq_findIdx? distinct, List.findIdx?_eq_some_iff_getElem]
  constructor
  · rintro ⟨inside, same, _⟩
    exact ⟨blocks[p], List.getElem?_eq_getElem inside, beq_iff_eq.mp same⟩
  · rintro ⟨b, placed, rfl⟩
    obtain ⟨inside, rfl⟩ := List.getElem?_eq_some_iff.mp placed
    refine ⟨inside, beq_self_eq_true _, fun q before same => ?_⟩
    have twice := eq_of_same_id distinct (List.getElem?_eq_getElem (Nat.lt_trans before inside))
      placed (beq_iff_eq.mp same)
    exact absurd twice (Nat.ne_of_lt before)

theorem budgetFaults_eq_nil_iff {n : Int} (times : b.parameters.maxIterations = some n) :
    budgetFaults most b = [] ↔ n ≤ most := by
  rw [budgetFaults, times]
  simp

/-- A loop that lacks nothing has no fault just when it repeats earlier blocks. -/
theorem loopFaults_eq_nil_iff (distinct : (blocks.map (·.id)).Nodup) (loop : b.type = .loop)
    (own : b.ownProblems = []) :
    loopFaults most blocks b position = [] ↔ b.RepeatsEarlier most blocks position := by
  obtain ⟨form, read, needs, _⟩ := ownProblems_eq_nil_iff.mp own
  cases (form?_of_loop loop).symm.trans read
  obtain ⟨start, starts⟩ := Option.isSome_iff_exists.mp (needs .loopStart (by decide))
  obtain ⟨stop, stops⟩ := Option.isSome_iff_exists.mp (needs .loopEnd (by decide))
  obtain ⟨n, times⟩ := Option.isSome_iff_exists.mp (needs .maxIterations (by decide))
  rw [loopFaults, if_pos loop, List.append_eq_nil_iff, budgetFaults_eq_nil_iff times,
    rangeProblems_eq_nil_iff starts stops]
  simp only [position?_eq_some_iff distinct]
  constructor
  · rintro ⟨⟨s, e, ⟨first, atStart, rfl⟩, ⟨last, atStop, rfl⟩, ordered, before⟩, bounded⟩
    exact ⟨s, e, first, last, n, atStart, atStop, starts, stops, ordered, before, times, bounded⟩
  · rintro ⟨s, e, first, last, m, atStart, atStop, starts', stops', ordered, before, times',
      bounded⟩
    cases starts.symm.trans starts'
    cases stops.symm.trans stops'
    cases times.symm.trans times'
    exact ⟨⟨s, e, ⟨first, atStart, rfl⟩, ⟨last, atStop, rfl⟩, ordered, before⟩, bounded⟩

theorem faults_eq_nil_iff : faults most blocks = [] ↔ Faultless most blocks := by
  have ofLoops : (blocks.zipIdx.map fun row => loopFaults most blocks row.1 row.2).flatten = [] ↔
      ∀ position b, blocks[position]? = some b → loopFaults most blocks b position = [] := by
    simp only [List.flatten_eq_nil_iff, List.forall_mem_map, Prod.forall,
      List.mk_mem_zipIdx_iff_getElem?]
    exact forall_comm
  rw [faults, List.append_eq_nil_iff, problemsFrom_eq_nil_iff, ofLoops]
  constructor
  · rintro ⟨⟨distinct, _, own⟩, silent⟩
    have read (b : Block) (member : b ∈ blocks) := ownProblems_eq_nil_iff.mp (own b member)
    refine ⟨distinct, fun b member => ?_, fun b member form isForm => ?_,
      fun b member isTime => ?_, fun position b placed loop => ?_⟩
    · obtain ⟨form, isForm, _⟩ := read b member
      exact form?_isSome_iff.mp (isForm ▸ rfl)
    · obtain ⟨_, alsoForm, needs, _⟩ := read b member
      cases isForm.symm.trans alsoForm
      exact needs
    · obtain ⟨_, alsoForm, _, bounded⟩ := read b member
      cases isTime.symm.trans alsoForm
      exact bounded rfl
    · exact (loopFaults_eq_nil_iff distinct loop (own b (List.mem_of_getElem? placed))).mp
        (silent position b placed)
  · intro fit
    have own (b : Block) (member : b ∈ blocks) : b.ownProblems = [] := by
      obtain ⟨form, isForm⟩ := Option.isSome_iff_exists.mp
        (form?_isSome_iff.mpr (fit.typed b member))
      exact ownProblems_eq_nil_iff.mpr ⟨form, isForm, fit.complete b member form isForm,
        fun time => fit.timed b member (time ▸ isForm)⟩
    refine ⟨⟨fit.distinct, fun b _ => List.not_mem_nil, own⟩, fun position b placed => ?_⟩
    by_cases loop : b.type = .loop
    · exact (loopFaults_eq_nil_iff fit.distinct loop (own b (List.mem_of_getElem? placed))).mpr
        (fit.earlier position b placed loop)
    · rw [loopFaults, if_neg loop]

theorem indexes_zipIdx (distinct : (blocks.map (·.id)).Nodup) :
    Indexes blocks (blocks.zipIdx.map fun (b, position) => (b.id, position)) := by
  have ids : (blocks.zipIdx.map fun (b, position) => (b.id, position)).map (·.1) =
      blocks.map (·.id) := by
    conv_rhs => rw [← List.zipIdx_map_fst 0 blocks, List.map_map]
    rw [List.map_map]
    rfl
  refine ⟨ids ▸ distinct, ?_, fun id p => ?_⟩
  · simp [List.map_map, Function.comp_def, List.zipIdx_map_snd, List.range_eq_range']
  · constructor
    · intro found
      obtain ⟨row, member, same⟩ := List.mem_map.mp (Table.mem_of_get? found)
      cases same
      exact ⟨row.1, List.mem_zipIdx_iff_getElem?.mp member, rfl⟩
    · rintro ⟨b, placed, rfl⟩
      refine Table.get?_of_mem (ids ▸ distinct) (List.mem_map.mpr ⟨(b, p), ?_, rfl⟩)
      exact List.mk_mem_zipIdx_iff_getElem?.mpr placed

/-- Validation accepts exactly the lists without faults, and indexes them. It refuses every other
    list for the faults that it names. To put them into words the bound on iterations has to be
    written, which a bound that was read from an environment always can be. -/
theorem validate_iff_faultless (most : Int) (blocks : List Block) :
    ((∃ index, validate most blocks = .ok index) ↔ Faultless most blocks) ∧
    (∀ index, validate most blocks = .ok index → Indexes blocks index) ∧
    (¬Faultless most blocks → ∃ problems, problems ≠ [] ∧
      (Cause.malformedProgram problems).kind = .invalidConfiguration ∧
      validate most blocks = refuse (.malformedProgram problems) ∧
      (Numeral.isWritable most = true →
        validate most blocks = .error (.failure ⟨.malformedProgram problems, none⟩))) ∧
    ∀ environment, ∀ s : Settings Int, Settings.ofEnvironment environment = .value s →
      Numeral.isWritable s.maxLoopIterations = true := by
  refine ⟨?_, ?_, ?_, fun environment s read => Settings.ofEnvironment_writable read
    ⟨"MAX_LOOP_ITERATIONS", Settings.maxLoopIterations,
      fun n s => { s with maxLoopIterations := n }⟩ (by simp [Settings.numbers])⟩
  all_goals rw [validate_int]
  · rw [← faults_eq_nil_iff]
    split
    · exact iff_of_true ⟨_, rfl⟩ ‹_›
    · refine iff_of_false ?_ ‹_›
      rintro ⟨index, accepted⟩
      cases accepted
  · intro index accepted
    split at accepted
    · cases accepted
      exact indexes_zipIdx (faults_eq_nil_iff.mp ‹_›).distinct
    · cases accepted
  · intro unfit
    have wrong : faults most blocks ≠ [] := fun none => unfit (faults_eq_nil_iff.mp none)
    rw [if_neg wrong]
    refine ⟨_, wrong, rfl, rfl, fun bound => ?_⟩
    rw [refuse, Cause.fault_eq (faults_writable blocks bound)]

/-- Waits until noon, twice. -/
def noonTwice : List Block :=
  [{ id := "noon", type := .trigger, triggerType := some .time
     parameters := { notBefore := some 43200 } },
   { id := "twice", type := .loop
     parameters := { loopStart := some "noon", loopEnd := some "noon", maxIterations := some 2 } }]

/-- The loop has to stand behind what it repeats. -/
theorem noonTwice_faultless :
    Faultless 100 noonTwice ∧ Indexes noonTwice [("noon", 0), ("twice", 1)] ∧
      ∃ problems, problems ≠ [] ∧ validate (100 : Int) noonTwice.reverse =
        .error (.failure ⟨.malformedProgram problems, none⟩) := by
  obtain ⟨accepts, indexed, _⟩ := validate_iff_faultless 100 noonTwice
  obtain ⟨acceptsReversed, _, refused, _⟩ := validate_iff_faultless 100 noonTwice.reverse
  have unfit : ¬Faultless 100 noonTwice.reverse := by
    intro fit
    obtain ⟨index, accepted⟩ := acceptsReversed.mpr fit
    cases accepted
  obtain ⟨problems, some_fault, _, _, told⟩ := refused unfit
  exact ⟨accepts.mp ⟨_, rfl⟩, indexed _ rfl, problems, some_fault,
    told (Numeral.isWritable_of_u64 (by decide) (by decide))⟩

end Block

end TradingEngine
