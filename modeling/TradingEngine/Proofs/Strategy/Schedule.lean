import Mathlib.Algebra.Ring.Int.Defs
import Mathlib.Algebra.Ring.Nat
import TradingEngine.Proofs.Strategy.Progress
import TradingEngine.Proofs.Strategy.Wellformed
import TradingEngine.Proofs.Table

/-! # The schedule of a block list

Which blocks a run dispatches is known before it starts. It goes through the blocks in order, and
each loop is followed by the passes over its range that its budget pays for. A loop inside that
range is dispatched on every pass and repeats nothing any more: it stands before the loop that
reaches it, so its budget was spent when its own turn came, and counters are never reset. A run that
ends early has followed a beginning of the schedule.
-/

namespace TradingEngine

namespace Block

/-- The positions that a loop repeats, pass after pass; none for any other block. -/
def passes (blocks : List Block) (b : Block) : List Nat :=
  match b.loop? blocks with
  | some (first, last, budget) =>
      (List.replicate budget.toNat (List.range' first (last + 1 - first))).flatten
  | none => []

/-- The positions that the first blocks of a list bring about, each by itself and by its passes. -/
def scheduleTo (blocks : List Block) (count : Nat) : List Nat :=
  (blocks.take count).zipIdx.flatMap fun (b, position) => position :: b.passes blocks

/-- The positions that a complete run dispatches, in order. -/
def schedule (blocks : List Block) : List Nat :=
  blocks.zipIdx.flatMap fun (b, position) => position :: b.passes blocks

/-- The ids of the blocks at these positions. -/
def idsAt (blocks : List Block) (positions : List Nat) : List Text :=
  positions.filterMap fun p => blocks[p]?.map (·.id)

/-- The ids of the actions among the blocks at these positions. -/
def actionsAt (blocks : List Block) (positions : List Nat) : List Text :=
  positions.filterMap fun p => (blocks[p]?.filter (·.type = .action)).map (·.id)

/-- How many dispatches a block brings about beyond its own. -/
def repetitions (blocks : List Block) (b : Block) : Nat :=
  match b.loop? blocks with
  | some (first, last, budget) => budget.toNat * (last + 1 - first)
  | none => 0

/-- The counter that a loop has when its budget is spent. One without a budget has none. -/
def spent? (blocks : List Block) (b : Block) : Option (Text × Int) :=
  match b.loop? blocks with
  | some (_, _, budget) => if 1 ≤ budget then some (b.id, budget) else none
  | none => none

/-- The counters of the first blocks of a list, when all of them had their turn. -/
def spentTo (blocks : List Block) (count : Nat) : List (Text × Int) :=
  (blocks.take count).filterMap (spent? blocks)

/-- The counters of all loops that repeat anything. -/
def spent (blocks : List Block) : List (Text × Int) := blocks.filterMap (spent? blocks)

theorem scheduleTo_length (blocks : List Block) :
    scheduleTo blocks blocks.length = schedule blocks := by
  rw [scheduleTo, List.take_length, schedule]

theorem scheduleTo_succ {blocks : List Block} {count : Nat} {b : Block}
    (here : blocks[count]? = some b) :
    scheduleTo blocks (count + 1) = scheduleTo blocks count ++ count :: b.passes blocks := by
  obtain ⟨inside, rfl⟩ := List.getElem?_eq_some_iff.mp here
  simp only [scheduleTo, List.take_succ_eq_append_getElem inside, List.zipIdx_append,
    List.flatMap_append, List.length_take, Nat.min_eq_left (Nat.le_of_lt inside)]
  simp

theorem spentTo_succ {blocks : List Block} {count : Nat} {b : Block}
    (here : blocks[count]? = some b) :
    spentTo blocks (count + 1) = spentTo blocks count ++ (b.spent? blocks).toList := by
  obtain ⟨inside, rfl⟩ := List.getElem?_eq_some_iff.mp here
  simp only [spentTo, List.take_succ_eq_append_getElem inside, List.filterMap_append]
  simp only [List.filterMap_cons, List.filterMap_nil]
  cases blocks[count].spent? blocks <;> rfl

theorem spentTo_length (blocks : List Block) : spentTo blocks blocks.length = spent blocks := by
  rw [spentTo, List.take_length, spent]

theorem length_passes (blocks : List Block) (b : Block) :
    (b.passes blocks).length = b.repetitions blocks := by
  unfold passes repetitions
  cases b.loop? blocks with
  | none => rfl
  | some row => simp

theorem length_schedule (blocks : List Block) :
    (schedule blocks).length = blocks.length + (blocks.map (repetitions blocks)).sum := by
  have each (bs : List Block) (k : Nat) :
      ((bs.zipIdx k).flatMap fun (b, position) => position :: b.passes blocks).length =
        bs.length + (bs.map (repetitions blocks)).sum := by
    induction bs generalizing k with
    | nil => rfl
    | cons b bs ih =>
        simp only [List.zipIdx_cons, List.flatMap_cons, List.length_append, List.length_cons, ih,
          length_passes, List.map_cons, List.sum_cons]
        omega
  exact each blocks 0

theorem idsAt_append (blocks : List Block) (first second : List Nat) :
    idsAt blocks (first ++ second) = idsAt blocks first ++ idsAt blocks second :=
  List.filterMap_append

theorem actionsAt_append (blocks : List Block) (first second : List Nat) :
    actionsAt blocks (first ++ second) = actionsAt blocks first ++ actionsAt blocks second :=
  List.filterMap_append

theorem idsAt_single {blocks : List Block} {position : Nat} {b : Block}
    (here : blocks[position]? = some b) : idsAt blocks [position] = [b.id] := by
  simp [idsAt, here]

theorem actionsAt_action {blocks : List Block} {position : Nat} {b : Block}
    (here : blocks[position]? = some b) (action : b.type = .action) :
    actionsAt blocks [position] = [b.id] := by
  simp [actionsAt, here, Option.filter, action]

theorem actionsAt_other {blocks : List Block} {position : Nat} {b : Block}
    (here : blocks[position]? = some b) (other : b.type ≠ .action) :
    actionsAt blocks [position] = [] := by
  simp [actionsAt, here, Option.filter, other]

theorem idsAt_passes {blocks : List Block} {b : Block} {first last : Nat} {budget : Int}
    (loop : b.loop? blocks = some (first, last, budget)) :
    idsAt blocks (b.passes blocks) = (List.replicate budget.toNat
      (idsAt blocks (List.range' first (last + 1 - first)))).flatten := by
  simp only [passes, loop, idsAt, List.filterMap_flatten, List.map_replicate]

theorem actionsAt_passes {blocks : List Block} {b : Block} {first last : Nat} {budget : Int}
    (loop : b.loop? blocks = some (first, last, budget)) :
    actionsAt blocks (b.passes blocks) = (List.replicate budget.toNat
      (actionsAt blocks (List.range' first (last + 1 - first)))).flatten := by
  simp only [passes, loop, actionsAt, List.filterMap_flatten, List.map_replicate]

theorem type_of_loop? {blocks : List Block} {b : Block} {row : Nat × Nat × Int}
    (loop : b.loop? blocks = some row) : b.type = .loop := by
  unfold loop? at loop
  split at loop
  · assumption
  · cases loop

/-- A block repeats none but those before it. -/
theorem lt_of_mem_passes {blocks : List Block} (fit : Wellformed blocks) {position p : Nat}
    {b : Block} (here : blocks[position]? = some b) (repeated : p ∈ b.passes blocks) :
    p < position := by
  rw [passes] at repeated
  split at repeated
  · rename_i first last budget loop
    obtain ⟨_, last', _, again, ordered, earlier⟩ :=
      fit.earlier position b here (type_of_loop? loop)
    cases loop.symm.trans again
    obtain ⟨range, copy, member⟩ := List.mem_flatten.mp repeated
    cases (List.mem_replicate.mp copy).2
    obtain ⟨_, below⟩ := List.mem_range'_1.mp member
    omega
  · cases repeated

/-- The schedule names no position that is not one of the list. -/
theorem lt_of_mem_schedule {blocks : List Block} (fit : Wellformed blocks) {p : Nat}
    (scheduled : p ∈ schedule blocks) : p < blocks.length := by
  obtain ⟨⟨b, position⟩, row, scheduled⟩ := List.mem_flatMap.mp scheduled
  have here := List.mem_zipIdx_iff_getElem?.mp row
  obtain ⟨inside, _⟩ := List.getElem?_eq_some_iff.mp here
  rcases List.mem_cons.mp scheduled with rfl | repeated
  · exact inside
  · exact Nat.lt_trans (lt_of_mem_passes fit here repeated) inside

/-! ### Spent budgets -/

theorem of_spent? {blocks : List Block} {b : Block} {row : Text × Int}
    (counter : b.spent? blocks = some row) : row.1 = b.id ∧ 1 ≤ row.2 := by
  simp only [spent?] at counter
  split at counter
  · split at counter
    · cases counter
      exact ⟨rfl, ‹_›⟩
    · cases counter
  · cases counter

/-- A block list has no more counters than blocks, and they stand in the same order. -/
theorem keys_spent (blocks bs : List Block) :
    ((bs.filterMap (spent? blocks)).map (·.1)).Sublist (bs.map (·.id)) := by
  induction bs with
  | nil => exact List.Sublist.slnil
  | cons b bs ih =>
      rw [List.filterMap_cons]
      cases counter : b.spent? blocks with
      | none => exact ih.cons b.id
      | some row =>
          rw [List.map_cons, List.map_cons, (of_spent? counter).1]
          exact ih.cons_cons b.id

theorem mem_take_of_lt {blocks : List Block} {position count : Nat} {b : Block}
    (here : blocks[position]? = some b) (before : position < count) : b ∈ blocks.take count :=
  List.mem_of_getElem? (by rw [List.getElem?_take_of_lt before, here])

/-- A block that had no turn yet has no counter. -/
theorem fresh_spentTo {blocks : List Block} (distinct : (blocks.map (·.id)).Nodup)
    {position count : Nat} {b : Block} (here : blocks[position]? = some b)
    (ahead : count ≤ position) : b.id ∉ (spentTo blocks count).map (·.1) := by
  intro counted
  have named := (keys_spent blocks (blocks.take count)).subset counted
  obtain ⟨other, member, same⟩ := List.mem_map.mp named
  obtain ⟨index, found⟩ := List.getElem?_of_mem member
  have inside : index < count := by
    apply Nat.lt_of_not_le
    intro outside
    rw [List.getElem?_take_eq_none outside] at found
    cases found
  rw [List.getElem?_take_of_lt inside] at found
  exact absurd (eq_of_same_id distinct found here same) (by omega)

/-- The loops that stand before a position have no iteration left. -/
def UsedUp (blocks : List Block) (count : Nat) (counters : List (Text × Int)) : Prop :=
  ∀ (position : Nat) (b : Block) (first last : Nat) (budget : Int), position < count →
    blocks[position]? = some b → b.loop? blocks = some (first, last, budget) →
      budget ≤ (Table.get? b.id counters).getD 0

theorem usedUp_spentTo {blocks : List Block} (distinct : (blocks.map (·.id)).Nodup)
    (count : Nat) : UsedUp blocks count (spentTo blocks count) := by
  intro position b first last budget before here loop
  by_cases repeated : 1 ≤ budget
  · have unique : ((spentTo blocks count).map (·.1)).Nodup :=
      (keys_spent blocks _).nodup
        (((List.take_sublist count blocks).map Block.id).nodup distinct)
    have counter : spent? blocks b = some (b.id, budget) := by
      simp only [spent?, loop, if_pos repeated]
    have row : (b.id, budget) ∈ spentTo blocks count :=
      List.mem_filterMap.mpr ⟨b, mem_take_of_lt here before, counter⟩
    rw [Table.get?_of_mem unique row]
    exact Int.le_refl budget
  · cases counted : Table.get? b.id (spentTo blocks count) with
    | none => simp only [Option.getD_none]; omega
    | some n =>
        obtain ⟨other, _, counter⟩ := List.mem_filterMap.mp (Table.mem_of_get? counted)
        have positive := (of_spent? counter).2
        simp only [Option.getD_some]
        omega

/-- A counter of a block further on does not matter for the loops before it. -/
theorem UsedUp.put {blocks : List Block} (distinct : (blocks.map (·.id)).Nodup) {count : Nat}
    {counters : List (Text × Int)} (used : UsedUp blocks count counters) {b : Block}
    (here : blocks[count]? = some b) (n : Int) :
    UsedUp blocks count (Table.put b.id n counters) := by
  intro position other first last budget before there loop
  have different : b.id ≠ other.id := by
    intro same
    exact absurd (eq_of_same_id distinct here there same) (by omega)
  rw [Table.get?_put_of_ne different]
  exact used position other first last budget before there loop

end Block

end TradingEngine
