import TradingEngine.Proofs.Except
import TradingEngine.Strategy.Program

/-! # Block lists without faults

What a block list guarantees once it was accepted: its ids are distinct, and every loop repeats a
range of blocks that stand before it, as often as it says. The program that is read from such a list
has an instruction for every block, in the same place.
-/

namespace TradingEngine

/-- In a list with distinct keys an element stands in one place. -/
theorem eq_of_same_key {α κ : Type} {key : α → κ} {xs : List α} (distinct : (xs.map key).Nodup)
    {p q : Nat} {a b : α} (at_p : xs[p]? = some a) (at_q : xs[q]? = some b) (same : key a = key b) :
    p = q := by
  have key_p : (xs.map key)[p]? = some (key a) := by rw [List.getElem?_map, at_p]; rfl
  have key_q : (xs.map key)[q]? = some (key a) := by rw [List.getElem?_map, at_q, same]; rfl
  obtain ⟨inside, _⟩ := List.getElem?_eq_some_iff.mp key_p
  exact (List.getElem?_inj inside distinct).mp (key_p.trans key_q.symm)

namespace Block

/-- The range and the budget of a loop: the positions of the blocks that it names and how often it
    repeats them. -/
def loop? (blocks : List Block) (b : Block) : Option (Nat × Nat × Int) :=
  if b.type = .loop then do
    let first ← blocks.findIdx? (·.id == (← b.parameters.loopStart))
    let last ← blocks.findIdx? (·.id == (← b.parameters.loopEnd))
    return (first, last, ← b.parameters.maxIterations)
  else none

/-- What makes a block list fit to be run. -/
structure Wellformed (blocks : List Block) : Prop where
  distinct : (blocks.map (·.id)).Nodup
  earlier (position : Nat) (b : Block) : blocks[position]? = some b → b.type = .loop →
    ∃ first last budget, b.loop? blocks = some (first, last, budget) ∧
      first ≤ last ∧ last < position

theorem eq_of_same_id {blocks : List Block} (distinct : (blocks.map (·.id)).Nodup) {p q : Nat}
    {a b : Block} (at_p : blocks[p]? = some a) (at_q : blocks[q]? = some b) (same : a.id = b.id) :
    p = q := eq_of_same_key distinct at_p at_q same

/-- With distinct ids it does not matter from which end a block is looked for. -/
theorem position?_eq_findIdx? {blocks : List Block} (distinct : (blocks.map (·.id)).Nodup)
    (id : Text) : position? id blocks = blocks.findIdx? (·.id == id) := by
  cases first : blocks.findIdx? (·.id == id) with
  | none =>
      have missing : blocks.zipIdx.reverse.find? (·.1.id == id) = none := by
        rw [List.find?_eq_none]
        intro row member
        have among := List.fst_mem_of_mem_zipIdx (List.mem_reverse.mp member)
        exact fun same => by simpa [same] using List.findIdx?_eq_none_iff.mp first row.1 among
      rw [position?, missing]
      rfl
  | some q =>
      obtain ⟨inside, same, _⟩ := List.findIdx?_eq_some_iff_getElem.mp first
      have row : (blocks[q], q) ∈ blocks.zipIdx.reverse := by
        rw [List.mem_reverse, List.mk_mem_zipIdx_iff_getElem?]
        exact List.getElem?_eq_getElem inside
      cases last : blocks.zipIdx.reverse.find? (·.1.id == id) with
      | none =>
          have other := List.find?_eq_none.mp last _ row
          exact absurd same other
      | some found =>
          have at_found : blocks[found.2]? = some found.1 :=
            List.mem_zipIdx_iff_getElem?.mp (List.mem_reverse.mp (List.mem_of_find?_eq_some last))
          have same_found := List.find?_some last
          rw [position?, last]
          exact congrArg some (eq_of_same_id distinct at_found (List.getElem?_eq_getElem inside)
            ((beq_iff_eq.mp same_found).trans (beq_iff_eq.mp same).symm))

/-! ### What an accepted list has passed -/

theorem problemsFrom_eq_nil_iff {seen : List Text} {blocks : List Block} :
    problemsFrom seen blocks = [] ↔
      (blocks.map (·.id)).Nodup ∧ (∀ b ∈ blocks, b.id ∉ seen) ∧
        ∀ b ∈ blocks, b.ownProblems = [] := by
  induction blocks generalizing seen with
  | nil => simp [problemsFrom]
  | cons head tail ih =>
      have fresh : (if seen.contains head.id then [BlockProblem.duplicateId head.id] else []) = [] ↔
          head.id ∉ seen := by simp
      -- That no later block repeats the head is asked of the tail with the head among the seen.
      have apart : (∀ b ∈ tail, b.id ∉ head.id :: seen) ↔
          head.id ∉ tail.map (·.id) ∧ ∀ b ∈ tail, b.id ∉ seen := by
        simp only [List.mem_cons, not_or, List.mem_map, not_exists, not_and, forall_and]
      simp only [problemsFrom, List.append_eq_nil_iff, fresh, ih, apart, List.map_cons,
        List.nodup_cons, List.forall_mem_cons]
      constructor
      · rintro ⟨⟨unseen, own⟩, distinct, ⟨once, later⟩, owns⟩
        exact ⟨⟨once, distinct⟩, ⟨unseen, later⟩, own, owns⟩
      · rintro ⟨⟨once, distinct⟩, ⟨unseen, later⟩, own, owns⟩
        exact ⟨⟨unseen, own⟩, distinct, ⟨once, later⟩, owns⟩

/-- A block that lacks nothing has every parameter that its form needs, and a trigger by time has a
    bound. -/
theorem ownProblems_eq_nil_iff {b : Block} :
    b.ownProblems = [] ↔ ∃ form, b.form? = some form ∧
      (∀ p ∈ form.required, p.isSet b.parameters = true) ∧
      (form = .trigger .time →
        b.parameters.notBefore.isSome = true ∨ b.parameters.notAfter.isSome = true) := by
  unfold ownProblems
  cases read : b.form? with
  | none => simp
  | some form =>
      simp only [List.append_eq_nil_iff, List.map_eq_nil_iff, List.filter_eq_nil_iff,
        Option.some.injEq, exists_eq_left']
      refine and_congr (by simp) ?_
      cases b.parameters.notBefore <;> cases b.parameters.notAfter <;> simp

theorem form?_of_loop {b : Block} (loop : b.type = .loop) : b.form? = some .loop := by
  simp [form?, loop]

/-- Nothing is wrong with a range just when it is found and ends before the loop. -/
theorem rangeProblems_eq_nil_iff {blocks : List Block} {position : Nat} {b : Block}
    {first last : Text} (starts : b.parameters.loopStart = some first)
    (stops : b.parameters.loopEnd = some last) :
    rangeProblems blocks position b = [] ↔
      ∃ s e, position? first blocks = some s ∧ position? last blocks = some e ∧
        s ≤ e ∧ e < position := by
  simp only [rangeProblems, starts, stops, Option.bind_some]
  cases position? first blocks <;> cases position? last blocks <;> simp

theorem loop?_of_rangeProblems_nil {blocks : List Block} (distinct : (blocks.map (·.id)).Nodup)
    {position : Nat} {b : Block} (loop : b.type = .loop) (own : b.ownProblems = [])
    (clean : rangeProblems blocks position b = []) :
    ∃ first last budget, b.loop? blocks = some (first, last, budget) ∧
      first ≤ last ∧ last < position := by
  obtain ⟨form, read, needs, _⟩ := ownProblems_eq_nil_iff.mp own
  cases (form?_of_loop loop).symm.trans read
  obtain ⟨start, starts⟩ := Option.isSome_iff_exists.mp (needs .loopStart (by decide))
  obtain ⟨stop, stops⟩ := Option.isSome_iff_exists.mp (needs .loopEnd (by decide))
  obtain ⟨budget, times⟩ := Option.isSome_iff_exists.mp (needs .maxIterations (by decide))
  obtain ⟨s, e, first, last, ordered, before⟩ :=
    (rangeProblems_eq_nil_iff starts stops).mp clean
  rw [position?_eq_findIdx? distinct] at first last
  exact ⟨s, e, budget, by simp [loop?, loop, starts, stops, times, first, last], ordered, before⟩

/-- An accepted block list is fit to be run. -/
theorem wellformed_of_validate {ν : Type} [Quantity ν] {maxIterations : ν} {blocks : List Block}
    {index : List (Text × Nat)} (accepted : validate maxIterations blocks = .ok index) :
    Wellformed blocks := by
  obtain ⟨faults, found, clean⟩ := Except.of_bind_ok accepted
  cases faults with
  | cons fault rest => cases clean
  | nil =>
      obtain ⟨ofLoops, judged, none⟩ := Except.of_bind_ok found
      obtain ⟨ownClean, loopsClean⟩ := List.append_eq_nil_iff.mp (Except.ok.inj none)
      obtain ⟨distinct, _, own⟩ := problemsFrom_eq_nil_iff.mp ownClean
      refine ⟨distinct, fun position b placed loop => ?_⟩
      have row : (b, position) ∈ blocks.zipIdx := List.mem_zipIdx_iff_getElem?.mpr placed
      obtain ⟨problems, among, judgement⟩ := Except.of_mapM_ok judged _ row
      have silent : problems = [] := List.flatten_eq_nil_iff.mp loopsClean problems among
      simp only [loopProblems, loop, if_true] at judgement
      obtain ⟨tooMany, _, joined⟩ := Except.of_bind_ok judgement
      rw [silent] at joined
      exact loop?_of_rangeProblems_nil distinct loop (own b (List.mem_of_getElem? placed))
        (List.append_eq_nil_iff.mp (Except.ok.inj joined)).1

end Block

/-! ### The program of a block list -/

/-- The range and the budget that an operation repeats. -/
def Operation.loop? : Operation → Option (Nat × Nat × Int)
  | .loop first last budget => some (first, last, budget)
  | _ => none

/-- The instructions stand where the blocks stand, under the same ids and with the same loops. -/
structure Program.Reads (blocks : List Block) (program : Program) : Prop where
  length : program.length = blocks.length
  place (position : Nat) (b : Block) : blocks[position]? = some b →
    ∃ operation, program[position]? = some ⟨b.id, operation⟩ ∧
      operation.type = b.type ∧ operation.loop? = b.loop? blocks

/-- The type of the blocks of a form. -/
def BlockForm.type : BlockForm → BlockType
  | .trigger _ => .trigger
  | .condition _ => .condition
  | .action _ => .action
  | .loop => .loop
  | .exit _ => .exit

theorem Block.type_of_form? {b : Block} {form : BlockForm} (h : b.form? = some form) :
    b.type = form.type := by
  unfold Block.form? at h
  cases type : b.type <;> simp only [type, Option.map_eq_some_iff] at h
  case loop => cases h; rfl
  all_goals
    obtain ⟨_, _, rfl⟩ := h
    rfl

theorem Block.operation?_reads {blocks : List Block} (distinct : (blocks.map (·.id)).Nodup)
    {b : Block} {operation : Operation} (read : b.operation? blocks = some operation) :
    operation.type = b.type ∧ operation.loop? = b.loop? blocks := by
  obtain ⟨form, isForm, made⟩ := Option.bind_eq_some_iff.mp read
  rw [loop?, type_of_form? isForm]
  simp only [position?_eq_findIdx? distinct] at made
  cases form with
  | loop =>
      simp only [Option.bind_eq_bind, Option.bind_eq_some_iff, Option.pure_def,
        Option.some.injEq] at made
      obtain ⟨target, start, s, first, target', stop, e, last, budget, times, rfl⟩ := made
      exact ⟨rfl, by simp [Operation.loop?, BlockForm.type, start, first, stop, last, times]⟩
  | trigger type | condition type | action type | exit type =>
      cases type <;>
        simp only [Option.bind_eq_bind, Option.bind_eq_some_iff, Option.pure_def,
          Option.some.injEq] at made <;>
        grind [Operation.type, Operation.loop?, BlockForm.type]

theorem getElem?_of_mapM_eq_some {α β : Type} {f : α → Option β} {xs : List α} {ys : List β}
    (h : xs.mapM f = some ys) :
    ys.length = xs.length ∧
      ∀ (i : Nat) (x : α), xs[i]? = some x → ∃ y, ys[i]? = some y ∧ f x = some y := by
  induction xs generalizing ys with
  | nil =>
      cases h
      simp
  | cons head tail ih =>
      rw [List.mapM_cons] at h
      obtain ⟨y, first, h⟩ := Option.bind_eq_some_iff.mp h
      obtain ⟨rest, later, h⟩ := Option.bind_eq_some_iff.mp h
      cases h
      obtain ⟨length, each⟩ := ih later
      refine ⟨congrArg (· + 1) length, fun i x here => ?_⟩
      cases i with
      | zero =>
          cases here
          exact ⟨y, rfl, first⟩
      | succ i => exact each i x here

/-- The program of a wellformed block list reads it block by block. -/
theorem Program.reads_of_ofBlocks {ν : Type} [Quantity ν] {maxIterations : ν}
    {blocks : List Block} {program : Program} (distinct : (blocks.map (·.id)).Nodup)
    (read : Program.ofBlocks maxIterations blocks = .ok program) :
    Program.Reads blocks program := by
  obtain ⟨_, _, read⟩ := Except.of_bind_ok read
  cases made : blocks.mapM (Block.instruction? blocks) with
  | none => simp [made] at read
  | some instructions =>
      simp only [made] at read
      cases read
      obtain ⟨length, each⟩ := getElem?_of_mapM_eq_some made
      refine ⟨length, fun position b placed => ?_⟩
      obtain ⟨instruction, at_position, one⟩ := each position b placed
      obtain ⟨operation, read, rfl⟩ := Option.map_eq_some_iff.mp one
      exact ⟨operation, at_position, Block.operation?_reads distinct read⟩

/-- Only a wellformed block list has a program. -/
theorem Program.wellformed_of_ofBlocks {ν : Type} [Quantity ν] {maxIterations : ν}
    {blocks : List Block} {program : Program}
    (read : Program.ofBlocks maxIterations blocks = .ok program) : Block.Wellformed blocks := by
  obtain ⟨index, accepted, _⟩ := Except.of_bind_ok read
  exact Block.wellformed_of_validate accepted

/-- The instructions of a program have distinct ids. -/
theorem Program.ids_nodup_of_ofBlocks {ν : Type} [Quantity ν] {maxIterations : ν}
    {blocks : List Block} {program : Program}
    (read : Program.ofBlocks maxIterations blocks = .ok program) :
    (program.map (·.id)).Nodup := by
  have distinct := (wellformed_of_ofBlocks read).distinct
  have reads := reads_of_ofBlocks distinct read
  have same : program.map (·.id) = blocks.map (·.id) := by
    refine List.ext_getElem? fun position => ?_
    rw [List.getElem?_map, List.getElem?_map]
    cases placed : blocks[position]? with
    | some b =>
        obtain ⟨operation, here, _⟩ := reads.place position b placed
        rw [here]
        rfl
    | none =>
        have outside := List.getElem?_eq_none_iff.mp placed
        rw [List.getElem?_eq_none (reads.length ▸ outside)]
        rfl
  rw [same]
  exact distinct

/-- An instruction is of the type of every block that has its id. -/
theorem Program.Reads.type_eq {blocks : List Block} {program : Program}
    (reads : Program.Reads blocks program) (distinct : (blocks.map (·.id)).Nodup)
    {i : Instruction} (member : i ∈ program) {b : Block} (among : b ∈ blocks) (same : b.id = i.id) :
    i.operation.type = b.type := by
  obtain ⟨position, inside, here⟩ := List.getElem_of_mem member
  have placed := List.getElem?_eq_getElem (reads.length ▸ inside)
  obtain ⟨operation, at_position, type, _⟩ := reads.place position _ placed
  rw [List.getElem?_eq_getElem inside, here] at at_position
  cases at_position
  obtain ⟨q, inside_q, rfl⟩ := List.getElem_of_mem among
  have at_q := List.getElem?_eq_getElem inside_q
  cases Block.eq_of_same_id distinct placed at_q same.symm
  exact type

/-! ### Actions -/

/-- The action type of an operation that trades. -/
def Operation.action? : Operation → Option ActionType
  | .swap .. => some .swap
  | .deposit .. => some .addLiquidity
  | .withdraw .. => some .removeLiquidity
  | _ => none

theorem Block.action_of_form? {b : Block} {type : ActionType}
    (h : b.form? = some (.action type)) : b.type = .action ∧ b.actionType = some type := by
  have active := type_of_form? h
  refine ⟨active, ?_⟩
  simp only [form?, active] at h
  obtain ⟨_, given, same⟩ := Option.map_eq_some_iff.mp h
  cases same
  exact given

/-- The form of the blocks that an operation is read from. -/
def Operation.form : Operation → BlockForm
  | .price .. => .trigger .price
  | .volume .. => .trigger .volume
  | .time .. => .trigger .time
  | .balance .. => .condition .balance
  | .priceImpact .. => .condition .priceImpact
  | .custom .. => .condition .custom
  | .swap .. => .action .swap
  | .deposit .. => .action .addLiquidity
  | .withdraw .. => .action .removeLiquidity
  | .loop .. => .loop
  | .exitAfter .. => .exit .blocksExecuted
  | .exitOnLoss .. => .exit .cumulativeLoss
  | .exitCustom .. => .exit .custom

theorem Block.form?_of_operation? {blocks : List Block} {b : Block} {operation : Operation}
    (read : b.operation? blocks = some operation) : b.form? = some operation.form := by
  obtain ⟨form, isForm, made⟩ := Option.bind_eq_some_iff.mp read
  refine isForm.trans (congrArg some ?_)
  cases form with
  | loop =>
      simp only [Option.bind_eq_bind, Option.bind_eq_some_iff, Option.pure_def,
        Option.some.injEq] at made
      obtain ⟨_, _, _, _, _, _, _, _, _, _, rfl⟩ := made
      rfl
  | trigger form | condition form | action form | exit form =>
      cases form <;>
        simp only [Option.bind_eq_bind, Option.bind_eq_some_iff, Option.pure_def,
          Option.some.injEq] at made <;>
        grind [Operation.form]

theorem Block.action_of_operation? {blocks : List Block} {b : Block} {operation : Operation}
    {type : ActionType} (read : b.operation? blocks = some operation)
    (acts : operation.action? = some type) : b.type = .action ∧ b.actionType = some type := by
  have isForm := form?_of_operation? read
  cases operation <;> cases acts <;> exact action_of_form? isForm

theorem Block.find?_of_mem {blocks : List Block} (distinct : (blocks.map (·.id)).Nodup) {b : Block}
    (member : b ∈ blocks) : blocks.find? (·.id == b.id) = some b := by
  cases found : blocks.find? (·.id == b.id) with
  | none => exact absurd (beq_self_eq_true b.id) (List.find?_eq_none.mp found b member)
  | some other =>
      obtain ⟨p, inside, rfl⟩ := List.getElem_of_mem member
      obtain ⟨q, among, rfl⟩ := List.getElem_of_mem (List.mem_of_find?_eq_some found)
      have sameId := List.find?_some found
      cases eq_of_same_id distinct (List.getElem?_eq_getElem among)
        (List.getElem?_eq_getElem inside) (beq_iff_eq.mp sameId)
      rfl

/-- Every instruction is read from the block that has its id. -/
theorem Program.block_of_mem {ν : Type} [Quantity ν] {maxIterations : ν} {blocks : List Block}
    {program : Program} (read : Program.ofBlocks maxIterations blocks = .ok program)
    {i : Instruction} (member : i ∈ program) :
    ∃ b ∈ blocks, blocks.find? (·.id == i.id) = some b ∧
      b.operation? blocks = some i.operation := by
  have distinct := (Program.wellformed_of_ofBlocks read).distinct
  obtain ⟨_, _, read⟩ := Except.of_bind_ok read
  cases made : blocks.mapM (Block.instruction? blocks) with
  | none => simp [made] at read
  | some instructions =>
      simp only [made] at read
      cases read
      obtain ⟨length, each⟩ := getElem?_of_mapM_eq_some made
      obtain ⟨position, inside, rfl⟩ := List.getElem_of_mem member
      have placed := List.getElem?_eq_getElem (length ▸ inside)
      obtain ⟨instruction, here, one⟩ := each position _ placed
      rw [List.getElem?_eq_getElem inside] at here
      cases here
      obtain ⟨operation, read, same⟩ := Option.map_eq_some_iff.mp one
      refine ⟨_, List.getElem_mem (length ▸ inside), ?_, ?_⟩
      · rw [← same]
        exact Block.find?_of_mem distinct (List.getElem_mem _)
      · rw [← same]
        exact read

end TradingEngine
