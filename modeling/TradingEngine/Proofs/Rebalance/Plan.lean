import Mathlib.Algebra.Order.BigOperators.Group.List
import Mathlib.Algebra.Order.Ring.Int
import TradingEngine.Proofs.Table
import TradingEngine.Proofs.Wording

/-! # What a plan comes to

Holdings are entered in rows, and the rows of one holder add up. What a target holds is what is
entered for its pool, or else what is entered for its venue. A plan goes through the targets in
their order and brings each of them to its share of the whole, rounded down. What the targets are
brought to is together no more than the whole, and short of it by less than one unit for each
target.
-/

namespace TradingEngine

open Engine Quantity

/-- Who holds what a target is about. -/
def LiquidityTarget.holder (t : LiquidityTarget) : Holder := (t.venue, some (.text t.pool))

namespace LiquidityMove

/-- Whose holding a move changes. -/
def holder (m : LiquidityMove) : Holder := (m.venue, some (.text m.pool))

/-- By how much a move changes it. -/
def signed (m : LiquidityMove) : Int :=
  match m.direction with
  | .add => m.amount
  | .remove => -m.amount

end LiquidityMove

namespace Rebalance

/-! ### Holdings -/

/-- The sum of the amounts in some rows. -/
def whole (current : List (Holder × Int)) : Int := (current.map (·.2)).sum

/-- What is entered for a holder. -/
def entered (holder : Holder) (current : List (Holder × Int)) : Int :=
  whole (current.filter (·.1 = holder))

/-- What a target is taken to hold: what is entered for its pool, or else for its venue. -/
def present (current : List (Holder × Int)) (t : LiquidityTarget) : Int :=
  if t.holder ∈ current.map (·.1) then entered t.holder current
  else entered (t.venue, none) current

theorem whole_nonneg {rows : List (Holder × Int)} (nonneg : ∀ row ∈ rows, 0 ≤ row.2) :
    0 ≤ whole rows :=
  List.sum_nonneg fun amount listed => by
    obtain ⟨row, member, rfl⟩ := List.mem_map.mp listed
    exact nonneg row member

theorem entered_cons (holder : Holder) (row : Holder × Int) (rows : List (Holder × Int)) :
    entered holder (row :: rows) =
      (if row.1 = holder then row.2 else 0) + entered holder rows := by
  by_cases same : row.1 = holder <;> simp [entered, whole, same]

theorem entered_of_fresh {holder : Holder} {rows : List (Holder × Int)}
    (fresh : holder ∉ rows.map (·.1)) : entered holder rows = 0 := by
  induction rows with
  | nil => rfl
  | cons row rows ih =>
      simp only [List.map_cons, List.mem_cons, not_or] at fresh
      rw [entered_cons, if_neg (Ne.symm fresh.1), ih fresh.2, Int.zero_add]

/-- Amounts are counted once if they are counted by holders that differ. -/
theorem whole_eq_sum_entered {holders : List Holder} {rows : List (Holder × Int)}
    (distinct : holders.Nodup) (listed : ∀ row ∈ rows, row.2 ≠ 0 → row.1 ∈ holders) :
    whole rows = (holders.map fun holder => entered holder rows).sum := by
  induction rows with
  | nil => simp [entered, whole]
  | cons row rows ih =>
      obtain ⟨first, others⟩ := List.forall_mem_cons.mp listed
      have once : (holders.map fun holder => if row.1 = holder then row.2 else 0).sum = row.2 := by
        simp only [eq_comm (a := row.1)]
        rw [List.sum_map_ite_eq]
        by_cases nothing : row.2 = 0
        · simp [nothing]
        · have counted := @List.Nodup.count _ instBEqOfDecidableEq _ row.1 _ distinct
          simp [counted, first nothing]
      simp only [entered_cons, List.sum_map_add, once, ← ih others]
      rfl

/-- The table with the amount of a row added to what its holder has. -/
def filed (table : List (Holder × Int)) (row : Holder × Int) : List (Holder × Int) :=
  Table.put row.1 ((Table.get? row.1 table).getD 0 + row.2) table

/-- Holdings with one row for each holder. -/
def gathered (current : List (Holder × Int)) : List (Holder × Int) := current.foldl filed []

theorem gather_eq (current : List (Holder × Int)) : gather current = .ok (gathered current) :=
  List.foldlM_pure (m := Except Fault)

theorem get?_filed (holder : Holder) (table : List (Holder × Int)) (row : Holder × Int) :
    Table.get? holder (filed table row) =
      if row.1 = holder then some ((Table.get? holder table).getD 0 + row.2)
      else Table.get? holder table := by
  rw [filed, Table.get?_put]
  split
  · rename_i same
    rw [same]
  · rfl

/-- A holder is found with all that was entered for it. -/
theorem get?_gathered (holder : Holder) (current : List (Holder × Int)) :
    Table.get? holder (gathered current) =
      if holder ∈ current.map (·.1) then some (entered holder current) else none := by
  have found (rows table : List (Holder × Int)) : Table.get? holder (rows.foldl filed table) =
      if holder ∈ rows.map (·.1) then
        some ((Table.get? holder table).getD 0 + entered holder rows)
      else Table.get? holder table := by
    -- A later row finds what the earlier ones filed, so the table cannot be fixed to the empty one.
    induction rows generalizing table with
    | nil => simp
    | cons row rows ih =>
        rw [List.foldl_cons, ih, get?_filed, entered_cons, List.map_cons]
        by_cases same : row.1 = holder
        · subst same
          by_cases again : row.1 ∈ rows.map (·.1)
          · simp [again, Int.add_assoc]
          · simp [again, entered_of_fresh again]
        · simp only [same, Ne.symm same, if_false, Int.zero_add, List.mem_cons, false_or]
  have all := found current []
  rwa [Table.get?_nil, Option.getD_none, Int.zero_add] at all

/-- A filed row adds its amount to what is counted for its holder, and to nothing else. -/
theorem whole_filter_filed (counted : Holder → Bool) (table : List (Holder × Int))
    (row : Holder × Int) :
    whole ((filed table row).filter (counted ·.1)) =
      whole (table.filter (counted ·.1)) + if counted row.1 then row.2 else 0 := by
  obtain ⟨holder, amount⟩ := row
  induction table with
  | nil => cases counts : counted holder <;> simp [filed, whole, Table.put, counts]
  | cons head tail ih =>
      obtain ⟨k, v⟩ := head
      rw [filed, Table.get?_cons, Table.put]
      -- The row changes the first entry of its holder, which stands here or in the tail.
      by_cases same : k = holder
      · subst same
        cases counts : counted k <;> simp [whole, counts]
        omega
      · have later := ih
        rw [filed] at later
        rw [if_neg same, if_neg same, List.filter_cons, List.filter_cons]
        cases counted k
        · exact later
        · simp only [if_true, whole, List.map_cons, List.sum_cons, Int.add_assoc] at later ⊢
          rw [later]

theorem whole_filter_foldl (counted : Holder → Bool) (rows table : List (Holder × Int)) :
    whole ((rows.foldl filed table).filter (counted ·.1)) =
      whole (table.filter (counted ·.1)) + whole (rows.filter (counted ·.1)) := by
  induction rows generalizing table with
  | nil => exact (Int.add_zero _).symm
  | cons row rows ih =>
      rw [List.foldl_cons, ih, whole_filter_filed, List.filter_cons]
      cases counted row.1 <;> simp [whole, Int.add_assoc]

theorem whole_foldl (rows table : List (Holder × Int)) :
    whole (rows.foldl filed table) = whole table + whole rows := by
  have summed := whole_filter_foldl (fun _ => true) rows table
  simpa only [List.filter_true] using summed

theorem whole_gathered (current : List (Holder × Int)) :
    whole (gathered current) = whole current := by
  rw [gathered, whole_foldl]
  exact Int.zero_add _

theorem total_eq (rows : List (Holder × Int)) : total rows = .ok (whole rows) := by
  have summed (sum : Int) : rows.foldlM (fun sum (row : Holder × Int) => add sum row.2) sum =
      (.ok (sum + whole rows) : Except Fault Int) := by
    induction rows generalizing sum with
    | nil => exact congrArg Except.ok (Int.add_zero sum).symm
    | cons row rows ih =>
        rw [List.foldlM_cons, add_int, Except.ok_bind, ih]
        simp only [whole, List.map_cons, List.sum_cons, Int.add_assoc]
  have all := summed 0
  rw [Int.zero_add] at all
  exact all

theorem held_gathered (current : List (Holder × Int)) (t : LiquidityTarget) :
    held (gathered current) t = present current t := by
  have pool : Table.get? (t.venue, some (.text t.pool)) (gathered current) = _ :=
    get?_gathered t.holder current
  rw [held, pool, present]
  split
  · rename_i found
    split at found
    · rename_i named
      rw [if_pos named, Option.some.inj found]
    · cases found
  · rename_i missing
    split at missing
    · cases missing
    · rename_i unnamed
      rw [if_neg unnamed, get?_gathered, ofInt_int]
      split
      · rfl
      · rename_i fresh
        rw [entered_of_fresh fresh, Option.getD_none]

/-! ### Moves -/

/-- The share of a total that a target is to hold, rounded down. -/
def aim (total : Int) (t : LiquidityTarget) : Int := total * t.share / 100

/-- The move that brings a target from what it holds to what it is to hold. -/
def shift? (present aim : Int) (t : LiquidityTarget) : Option LiquidityMove :=
  if present < aim then some ⟨t.venue, t.pool, aim - present, .add⟩
  else if aim < present then some ⟨t.venue, t.pool, present - aim, .remove⟩
  else none

/-- The plan for holdings. -/
def planned (current : List (Holder × Int)) (targets : List LiquidityTarget) :
    List LiquidityMove :=
  targets.filterMap fun t => shift? (present current t) (aim (whole current) t) t

theorem move?_eq (holdings : List (Holder × Int)) (total : Int) (t : LiquidityTarget) :
    move? holdings total t = .ok (shift? (held holdings t) (aim total t) t) := by
  have rounded : (total * t.share).fdiv 100 = aim total t :=
    Int.fdiv_eq_ediv_of_nonneg _ (by decide)
  have divided : floorDiv (total * t.share) (100 : Int) = .ok (aim total t) := by
    rw [floorDiv_int, if_neg (by decide), rounded]
  simp only [move?, shift?, mul_int, ofInt_int, divided, lt_int, sub_int,
    LiquidityMove.ofQuantity_int, Except.ok_bind, decide_eq_true_eq]
  split
  · rfl
  · split <;> rfl

theorem moves_gathered (current : List (Holder × Int)) (targets : List LiquidityTarget) :
    moves (gathered current) targets = .ok (planned current targets) := by
  rw [moves, total_eq, whole_gathered, Except.ok_bind]
  refine Except.filterMapM_ok fun t _ => ?_
  rw [move?_eq, held_gathered]

/-- What is journalled of a plan. -/
def note (current : List (Holder × Int)) (targets : List LiquidityTarget) : Fields :=
  [("total", .int (whole current)), ("moves", .int (planned current targets).length)]

/-- The plan is made and journalled, if the shares add up. -/
theorem result_compute (current : List (Holder × Int)) (targets : List LiquidityTarget)
    (w : World Int) :
    (compute current targets).result w =
      if (targets.map (·.share)).sum = 100 then
        match w.journal.write .info "REBALANCE_PLANNED" (note current targets) with
        | .ok journal => (.ok (planned current targets), { w with journal })
        | .error b => (.error (.breakdown b), w)
      else (refuse (.ratiosOff (targets.map (·.share)).sum), w) := by
  have summed : shareSum targets = (targets.map (·.share)).sum := rfl
  simp only [compute, checkShares, summed]
  split
  · rw [gather_eq]
    simp only [ofExcept_ok, pure_bind, announce, total_eq, whole_gathered, moves_gathered]
    rw [result_bind, result_log, note, Quantity.toJson_int]
    cases w.journal.write .info "REBALANCE_PLANNED" [("total", .int (whole current)),
      ("moves", .int (planned current targets).length)] <;> rfl
  · rfl

/-! ### What a plan meets -/

/-- The moves take the targets, each once and in their order, from what they hold to their aims. A
    target that is at its aim is left alone, and no move is of nothing. -/
inductive Meets (held aims : LiquidityTarget → Int) :
    List LiquidityTarget → List LiquidityMove → Prop
  | nil : Meets held aims [] []
  | kept {t : LiquidityTarget} {ts : List LiquidityTarget} {ms : List LiquidityMove}
      (met : held t = aims t) (rest : Meets held aims ts ms) : Meets held aims (t :: ts) ms
  | moved {t : LiquidityTarget} {ts : List LiquidityTarget} {m : LiquidityMove}
      {ms : List LiquidityMove} (venue : m.venue = t.venue) (pool : m.pool = t.pool)
      (positive : 0 < m.amount) (met : held t + m.signed = aims t) (rest : Meets held aims ts ms) :
      Meets held aims (t :: ts) (m :: ms)

theorem meets_filterMap (held aims : LiquidityTarget → Int) (targets : List LiquidityTarget) :
    Meets held aims targets (targets.filterMap fun t => shift? (held t) (aims t) t) := by
  induction targets with
  | nil => exact .nil
  | cons t ts ih =>
      rw [List.filterMap_cons]
      rcases Int.lt_trichotomy (held t) (aims t) with short | even | excess
      · rw [shift?, if_pos short]
        refine .moved rfl rfl (Int.sub_pos.mpr short) ?_ ih
        change held t + (aims t - held t) = aims t
        omega
      · rw [shift?, if_neg (by omega), if_neg (by omega)]
        exact .kept even ih
      · rw [shift?, if_neg (by omega), if_pos excess]
        refine .moved rfl rfl (Int.sub_pos.mpr excess) ?_ ih
        change held t + -(held t - aims t) = aims t
        omega

/-- All that is added and removed is what the aims are together above what is held. -/
theorem Meets.balance {held aims : LiquidityTarget → Int} {targets : List LiquidityTarget}
    {moves : List LiquidityMove} (meets : Meets held aims targets moves) :
    (targets.map held).sum + (moves.map (·.signed)).sum = (targets.map aims).sum := by
  induction meets with
  | nil => rfl
  | kept met _ ih =>
      simp only [List.map_cons, List.sum_cons, met]
      omega
  | moved _ _ _ met _ ih =>
      simp only [List.map_cons, List.sum_cons]
      omega

theorem planned_length_le (current : List (Holder × Int)) (targets : List LiquidityTarget) :
    (planned current targets).length ≤ targets.length := List.length_filterMap_le ..

/-! ### What is left over -/

/-- What the targets are to hold together of a total. -/
def allotted (targets : List LiquidityTarget) (total : Int) : Int :=
  (targets.map (aim total)).sum

/-- What a total has too much, in hundredths, to give a target its share without a remainder. -/
def rest (total : Int) (t : LiquidityTarget) : Int := total * t.share % 100

section

variable (targets : List LiquidityTarget) (total : Int)

/-- What is allotted and what is left over make up the total. -/
theorem allotted_add_rests :
    100 * allotted targets total + (targets.map (rest total)).sum =
      total * (targets.map (·.share)).sum := by
  rw [allotted]
  induction targets with
  | nil => simp
  | cons t ts ih =>
      have shared : 100 * aim total t + rest total t = total * t.share :=
        Int.mul_ediv_add_emod ..
      simp only [List.map_cons, List.sum_cons, Int.mul_add]
      omega

theorem rests_bounds :
    0 ≤ (targets.map (rest total)).sum ∧ (targets.map (rest total)).sum ≤ 99 * targets.length := by
  induction targets with
  | nil => simp
  | cons t ts ih =>
      have low : 0 ≤ rest total t := Int.emod_nonneg _ (by decide)
      have high : rest total t < 100 := Int.emod_lt_of_pos _ (by decide)
      simp only [List.map_cons, List.sum_cons, List.length_cons]
      omega

/-- No more than the total is allotted, and less than one unit for each target is not. -/
theorem allotted_bounds {targets : List LiquidityTarget}
    (full : (targets.map (·.share)).sum = 100) (total : Int) :
    total - targets.length < allotted targets total ∧ allotted targets total ≤ total := by
  have divided := allotted_add_rests targets total
  have left := rests_bounds targets total
  -- The strict bound needs a target, and without one the shares would sum to nothing.
  have some : targets.length ≠ 0 := by
    intro none
    rw [List.eq_nil_of_length_eq_zero none] at full
    cases full
  rw [full] at divided
  omega

end

/-! ### How planning ends -/

section

variable {current : List (Holder × Int)} {targets : List LiquidityTarget} {w : World Int}

theorem refuses_ratiosOff (ratios : Int) :
    (∃ failure, failure.kind = .invalidRatios ∧
        (refuse (.ratiosOff ratios) : Except Fault (List LiquidityMove)) =
          .error (.failure failure)) ∨
      ¬ Numeral.isWritable ratios ∧
        (refuse (.ratiosOff ratios) : Except Fault (List LiquidityMove)) =
          .error (.breakdown .tooManyDigits) := by
  have shown : Json.allWritable (Cause.ratiosOff ratios).shownValues =
      Numeral.isWritable ratios := Bool.and_true _
  cases writable : Numeral.isWritable ratios with
  | true => exact .inl ⟨_, rfl, congrArg Except.error (Cause.fault_eq (shown.trans writable))⟩
  | false =>
      refine .inr ⟨Bool.false_ne_true, ?_⟩
      rw [refuse, Cause.fault, shown, writable]
      rfl

theorem compute_refuses (off : (targets.map (·.share)).sum ≠ 100) :
    ((compute current targets).result w).1 =
      refuse (.ratiosOff (targets.map (·.share)).sum) := by
  rw [result_compute, if_neg off]

/-- A plan is there if it can be journalled. -/
theorem compute_ok (full : (targets.map (·.share)).sum = 100)
    (bound : Json.fieldsWritable w.journal.bound = true)
    (total : Numeral.isWritable (whole current) = true)
    (count : Numeral.isWritable (planned current targets).length = true) :
    ∃ after, (compute current targets).result w = (.ok (planned current targets), after) := by
  have noted : Json.fieldsWritable (note current targets) = true := by
    simp only [note, Json.fieldsWritable, Json.isWritable, total, count, Bool.and_self]
  obtain ⟨journal, written⟩ := Journal.write_ok .info "REBALANCE_PLANNED" bound noted
  refine ⟨{ w with journal }, ?_⟩
  rw [result_compute, if_pos full, written]

theorem of_compute_ok {moves : List LiquidityMove} {after : World Int}
    (h : (compute current targets).result w = (.ok moves, after)) :
    (targets.map (·.share)).sum = 100 ∧ moves = planned current targets ∧
      ∃ journal, journal.bound = w.journal.bound ∧ after = { w with journal } := by
  rw [result_compute] at h
  split at h
  · rename_i full
    split at h
    · rename_i journal written
      cases h
      exact ⟨full, rfl, journal, Journal.bound_write written, rfl⟩
    · cases h
  · cases h

theorem of_compute_error {f : Fault} (full : (targets.map (·.share)).sum = 100)
    (h : ((compute current targets).result w).1 = .error f) : f = .breakdown .tooManyDigits := by
  rw [result_compute, if_pos full] at h
  split at h
  · cases h
  · rename_i b unwritten
    cases h
    rw [Journal.of_write_error unwritten]

end

/-- Planning refuses exactly if the shares do not add up to the whole, and ends in no other fault
    unless a number that is told has too many digits. A plan takes each target to its share, and
    the targets together to the whole, short of less than one unit for each. -/
theorem compute_meets_targets (current : List (Holder × Int)) (targets : List LiquidityTarget)
    (w : World Int) :
    let ended := ((compute current targets).result w).1
    let shares := (targets.map (·.share)).sum
    (Numeral.isWritable shares →
      ((∃ failure, failure.kind = .invalidRatios ∧ ended = .error (.failure failure)) ↔
        shares ≠ 100)) ∧
    (shares = 100 → Json.fieldsWritable w.journal.bound → Numeral.isWritable (whole current) →
      Numeral.isWritable (planned current targets).length → ∃ moves, ended = .ok moves) ∧
    (∀ f, ended = .error f → f = .breakdown .tooManyDigits ∨
      ∃ failure, failure.kind = .invalidRatios ∧ f = .failure failure) ∧
    (∀ moves, ended = .ok moves →
      shares = 100 ∧ Meets (present current) (aim (whole current)) targets moves ∧
        whole current - targets.length < allotted targets (whole current) ∧
          allotted targets (whole current) ≤ whole current) := by
  intro ended shares
  refine ⟨fun writable => ⟨?_, fun off => ?_⟩, fun full bound total count => ?_, fun f failed => ?_,
    fun moves ok => ?_⟩
  · rintro ⟨failure, -, failed⟩ full
    cases of_compute_error full failed
  · obtain ⟨failure, kind, refused⟩ | ⟨unwritable, -⟩ := refuses_ratiosOff shares
    · exact ⟨failure, kind, (compute_refuses off).trans refused⟩
    · exact absurd writable unwritable
  · obtain ⟨_, ends⟩ := compute_ok full bound total count
    exact ⟨_, congrArg Prod.fst ends⟩
  · by_cases full : shares = 100
    · exact .inl (of_compute_error full failed)
    · have refused := (compute_refuses full).symm.trans failed
      obtain ⟨failure, kind, worded⟩ | ⟨-, broken⟩ := refuses_ratiosOff shares
      · exact .inr ⟨failure, kind, Except.error.inj (refused.symm.trans worded)⟩
      · exact .inl (Except.error.inj (refused.symm.trans broken))
  · obtain ⟨full, rfl, -⟩ := of_compute_ok (Prod.ext ok rfl)
    exact ⟨full, meets_filterMap _ _ targets, allotted_bounds full _⟩

/-- Holdings of a pool in two rows, of venues as a whole, and of less than nothing. -/
def mixedRows : List (Holder × Int) :=
  [((.raydium, none), 70), ((.jupiter, some (.text "A")), -20), ((.serum, none), 51),
    ((.jupiter, some (.text "A")), 10)]

/-- Targets at two of the venues. -/
def mixedTargets : List LiquidityTarget :=
  [⟨.raydium, "A", 50⟩, ⟨.jupiter, "A", 30⟩, ⟨.jupiter, "B", 20⟩]

theorem mixedRows_planned :
    ∃ moves, ((compute mixedRows mixedTargets).result { settings := .standard }).1 = .ok moves ∧
      Meets (present mixedRows) (aim 111) mixedTargets moves ∧
      mixedTargets.map (present mixedRows) = [70, -10, 0] ∧
      mixedTargets.map (aim 111) = [55, 33, 22] := by
  obtain ⟨-, made, -, meets⟩ :=
    compute_meets_targets mixedRows mixedTargets { settings := .standard }
  obtain ⟨moves, ok⟩ := made (by decide) (by decide)
    (Numeral.isWritable_of_small (by decide) (by decide))
    (Numeral.isWritable_of_small (by decide) (by decide))
  exact ⟨moves, ok, (meets moves ok).2.1, by decide, by decide⟩

/-- Two holdings with as many digits as can be written. Their sum has one more. -/
def vastRows : List (Holder × Int) :=
  [((.raydium, none), (9 * 10 ^ 4299 : Nat)), ((.jupiter, none), (9 * 10 ^ 4299 : Nat))]

/-- Half of the whole for each of two venues. -/
def evenTargets : List LiquidityTarget := [⟨.raydium, "A", 50⟩, ⟨.jupiter, "B", 50⟩]

/-- The shares add up and every holding is at its share, but there is no plan. -/
theorem vastRows_break_off :
    (evenTargets.map (·.share)).sum = 100 ∧
      ((compute vastRows evenTargets).result { settings := .standard }).1 =
        .error (.breakdown .tooManyDigits) := by
  have broken : brokeOff ((compute vastRows evenTargets).result { settings := .standard }).1 =
      true := by decide +kernel
  exact ⟨rfl, of_brokeOff broken⟩

end Rebalance

end TradingEngine
