import TradingEngine.Proofs.Rebalance.Plan

/-! # Plans that settle

Holdings for which a plan was carried out in full are at their aims, but what the plan left over
is gone from the total, and so the next plan may lower the aims again. It never raises one. The
total falls with each plan until the shares split it without a remainder, which is so within
ninety-nine plans, and from then on there is nothing to move.
-/

namespace TradingEngine

open Engine

/-- What a move adds to whose holding. -/
def LiquidityMove.row (m : LiquidityMove) : Holder × Int := (m.holder, m.signed)

namespace Rebalance

/-- Holdings after moves that were filled exactly. -/
def carriedOut (moves : List LiquidityMove) (current : List (Holder × Int)) :
    List (Holder × Int) :=
  (moves.map (·.row)).foldl filed current

/-- Whether the shares split a total without a remainder. -/
def Splits (targets : List LiquidityTarget) (total : Int) : Prop :=
  ∀ t ∈ targets, 100 ∣ total * t.share

/-- Holdings, after as many plans were made and carried out in full, one after the other. -/
inductive Rounds (targets : List LiquidityTarget) :
    Nat → List (Holder × Int) → World Int → List (Holder × Int) → World Int → Prop
  | none (rows : List (Holder × Int)) (w : World Int) : Rounds targets 0 rows w rows w
  | round {k : Nat} {rows last : List (Holder × Int)} {moves : List LiquidityMove}
      {w between after : World Int}
      (before : Rounds targets k rows w last between)
      (made : (compute last targets).result between = (.ok moves, after)) :
      Rounds targets (k + 1) rows w (carriedOut moves last) after

/-! ### Totals that fall -/

section

variable {targets : List LiquidityTarget} {a b : Int}

theorem aim_mono {t : LiquidityTarget} (share : 0 ≤ t.share) (le : a ≤ b) : aim a t ≤ aim b t :=
  Int.ediv_le_ediv (by decide) (Int.mul_le_mul_of_nonneg_right le share)

theorem allotted_mono (shares : ∀ t ∈ targets, 0 ≤ t.share) (le : a ≤ b) :
    allotted targets a ≤ allotted targets b :=
  List.sum_le_sum fun t member => aim_mono (shares t member) le

/-- Where less is allotted for no target, and not less together, no aim is lower. -/
theorem aim_eq_of_allotted_le (shares : ∀ t ∈ targets, 0 ≤ t.share) (le : a ≤ b)
    (together : allotted targets b ≤ allotted targets a) : ∀ t ∈ targets, aim a t = aim b t := by
  intro t member
  have below := aim_mono (shares t member) le
  by_contra other
  have less : allotted targets a < allotted targets b :=
    List.sum_lt_sum _ _ (fun t member => aim_mono (shares t member) le)
      ⟨t, member, lt_of_le_of_ne below other⟩
  omega

/-- Everything is allotted exactly if no target leaves a remainder. -/
theorem allotted_eq_iff (full : (targets.map (·.share)).sum = 100) :
    allotted targets a = a ↔ Splits targets a := by
  have divided := allotted_add_rests targets a
  rw [full] at divided
  have low (t : LiquidityTarget) : 0 ≤ rest a t := Int.emod_nonneg _ (by decide)
  constructor
  · intro even t member
    have none : (targets.map (rest a)).sum = 0 := by omega
    have positive : ∀ r ∈ targets.map (rest a), 0 ≤ r := by
      intro r left
      obtain ⟨t, -, rfl⟩ := List.mem_map.mp left
      exact low t
    exact Int.dvd_of_emod_eq_zero
      (List.all_zero_of_le_zero_le_of_sum_eq_zero positive none (List.mem_map_of_mem member))
  · intro splits
    have none : (targets.map (rest a)).sum = 0 :=
      List.sum_eq_zero fun r left => by
        obtain ⟨t, member, rfl⟩ := List.mem_map.mp left
        exact Int.emod_eq_zero_of_dvd (splits t member)
    omega

end

/-! ### Repeated allotment -/

section

variable {targets : List LiquidityTarget}

theorem allotted_iterate_le (full : (targets.map (·.share)).sum = 100) (total : Int) (k : Nat) :
    (allotted targets)^[k] total ≤ total := by
  induction k with
  | zero => exact le_refl total
  | succ k ih =>
      rw [Function.iterate_succ_apply']
      exact le_trans (allotted_bounds full _).2 ih

/-- A total that the shares split is never fallen below. -/
theorem le_allotted_iterate (full : (targets.map (·.share)).sum = 100)
    (shares : ∀ t ∈ targets, 0 ≤ t.share) {least total : Int} (splits : Splits targets least)
    (le : least ≤ total) (k : Nat) : least ≤ (allotted targets)^[k] total := by
  induction k with
  | zero => exact le
  | succ k ih =>
      rw [Function.iterate_succ_apply', ← (allotted_eq_iff full).mpr splits]
      exact allotted_mono shares ih

/-- The total falls by a unit each time until the shares split it. -/
theorem splits_or_falls (full : (targets.map (·.share)).sum = 100) (total : Int) (k : Nat) :
    Splits targets ((allotted targets)^[k] total) ∨
      (allotted targets)^[k] total ≤ total - k := by
  induction k with
  | zero => exact .inr (by simp)
  | succ k ih =>
      rw [Function.iterate_succ_apply']
      have bounded := (allotted_bounds full ((allotted targets)^[k] total)).2
      -- Once it is split the total stays; before that, an allotment that keeps it shows it split.
      rcases ih with splits | fallen
      · rw [(allotted_eq_iff full).mpr splits]
        exact .inl splits
      · by_cases even : allotted targets ((allotted targets)^[k] total) =
            (allotted targets)^[k] total
        · rw [even]
          exact .inl ((allotted_eq_iff full).mp even)
        · right
          omega

/-- Any shares split the hundreds, and the hundred below a total is less than a hundred away. -/
theorem splits_iterate (full : (targets.map (·.share)).sum = 100)
    (shares : ∀ t ∈ targets, 0 ≤ t.share) (total : Int) {k : Nat} (enough : 99 ≤ k) :
    Splits targets ((allotted targets)^[k] total) := by
  have hundreds : Splits targets (100 * (total / 100)) := fun t _ =>
    Dvd.dvd.mul_right (Int.dvd_mul_right 100 (total / 100)) t.share
  have below : 100 * (total / 100) ≤ total := Int.mul_ediv_self_le (by decide)
  have above := le_allotted_iterate full shares hundreds below k
  -- A total that fell each time has come down to that hundred and can be no lower.
  obtain splits | fallen := splits_or_falls full total k
  · exact splits
  · have reached : (allotted targets)^[k] total = 100 * (total / 100) := by omega
    rwa [reached]

end

/-! ### Carrying out a plan -/

section

variable {held aims : LiquidityTarget → Int} {targets : List LiquidityTarget}
  {moves : List LiquidityMove} {current rows : List (Holder × Int)}

theorem entered_carriedOut (holder : Holder) (moves : List LiquidityMove)
    (current : List (Holder × Int)) : entered holder (carriedOut moves current) =
      entered holder current + entered holder (moves.map (·.row)) :=
  whole_filter_foldl (fun other => decide (other = holder)) (moves.map LiquidityMove.row) current

/-- A move changes the holding of a target. -/
theorem Meets.holder_mem (meets : Meets held aims targets moves) :
    ∀ m ∈ moves, m.holder ∈ targets.map (·.holder) := by
  induction meets with
  | nil => exact List.forall_mem_nil _
  | kept _ _ ih => exact fun m member => List.mem_cons_of_mem _ (ih m member)
  | moved venue pool _ _ _ ih =>
      refine List.forall_mem_cons.mpr ⟨?_, fun m member => List.mem_cons_of_mem _ (ih m member)⟩
      rw [LiquidityMove.holder, venue, pool]
      exact List.mem_cons_self

theorem Meets.fresh (meets : Meets held aims targets moves) {holder : Holder}
    (other : holder ∉ targets.map (·.holder)) : entered holder (moves.map (·.row)) = 0 := by
  refine entered_of_fresh fun named => other ?_
  obtain ⟨row, among, rfl⟩ := List.mem_map.mp named
  obtain ⟨m, member, rfl⟩ := List.mem_map.mp among
  exact meets.holder_mem m member

/-- Where targets differ, the moves of a plan add to a target's holding what its aim is above it. -/
theorem Meets.entered_eq (meets : Meets held aims targets moves)
    (distinct : (targets.map (·.holder)).Nodup) :
    ∀ t ∈ targets, held t + entered t.holder (moves.map (·.row)) = aims t := by
  induction meets with
  | nil => exact List.forall_mem_nil _
  | kept met rest ih =>
      obtain ⟨fresh, distinct⟩ := List.nodup_cons.mp distinct
      refine List.forall_mem_cons.mpr ⟨?_, ih distinct⟩
      rw [rest.fresh fresh, met, Int.add_zero]
  | @moved t ts m ms venue pool _ met rest ih =>
      obtain ⟨fresh, distinct⟩ := List.nodup_cons.mp distinct
      have same : m.row.1 = t.holder := by
        rw [LiquidityMove.row, LiquidityMove.holder, venue, pool, LiquidityTarget.holder]
      refine List.forall_mem_cons.mpr ⟨?_, fun u member => ?_⟩
      · rw [List.map_cons, entered_cons, rest.fresh fresh, if_pos same, Int.add_zero]
        exact met
      · have other : m.row.1 ≠ u.holder := by
          intro again
          rw [same] at again
          exact fresh (List.mem_map.mpr ⟨u, member, again.symm⟩)
        rw [List.map_cons, entered_cons, if_neg other, Int.zero_add]
        exact ih distinct u member

theorem keys_carriedOut (named : ∀ m ∈ moves, m.holder ∈ current.map (·.1)) :
    (carriedOut moves current).map (·.1) = current.map (·.1) := by
  induction moves generalizing current with
  | nil => rfl
  | cons m ms ih =>
      obtain ⟨first, others⟩ := List.forall_mem_cons.mp named
      have keys : (filed current m.row).map (·.1) = current.map (·.1) := Table.keys_put first _
      rw [carriedOut, List.map_cons, List.foldl_cons]
      exact (ih (keys ▸ others)).trans keys

theorem present_of_mem {t : LiquidityTarget} (named : t.holder ∈ rows.map (·.1)) :
    present rows t = entered t.holder rows := if_pos named

/-- Rows of the targets' pools, one each, are all held by the targets. -/
theorem whole_eq_sum_present (distinct : (targets.map (·.holder)).Nodup)
    (keyed : (rows.map (·.1)).Perm (targets.map (·.holder))) :
    whole rows = (targets.map (present rows)).sum := by
  rw [whole_eq_sum_entered distinct fun row member _ => keyed.subset (List.mem_map_of_mem member),
    List.map_map]
  refine congrArg List.sum (List.map_congr_left fun t member => ?_)
  exact (present_of_mem (keyed.mem_iff.mpr (List.mem_map_of_mem member))).symm

/-- Holdings of the targets' pools, each of which is at its share of this total. -/
structure Level (targets : List LiquidityTarget) (total : Int) (rows : List (Holder × Int)) :
    Prop where
  keyed : (rows.map (·.1)).Perm (targets.map (·.holder))
  level : ∀ t ∈ targets, present rows t = aim total t

theorem Level.whole_eq {total : Int} (level : Level targets total rows)
    (distinct : (targets.map (·.holder)).Nodup) : whole rows = allotted targets total := by
  rw [whole_eq_sum_present distinct level.keyed, List.map_congr_left level.level, allotted]

/-- Once a plan is carried out in full, every target is at its share of what was held before. -/
theorem level_carriedOut (distinct : (targets.map (·.holder)).Nodup)
    (keyed : (rows.map (·.1)).Perm (targets.map (·.holder))) :
    Level targets (whole rows) (carriedOut (planned rows targets) rows) := by
  have meets : Meets (present rows) (aim (whole rows)) targets (planned rows targets) :=
    meets_filterMap ..
  have keys : (carriedOut (planned rows targets) rows).map (·.1) = rows.map (·.1) :=
    keys_carriedOut fun m member => keyed.mem_iff.mpr (meets.holder_mem m member)
  refine ⟨keys ▸ keyed, fun t member => ?_⟩
  have named : t.holder ∈ rows.map (·.1) := keyed.mem_iff.mpr (List.mem_map_of_mem member)
  rw [present_of_mem (keys ▸ named), entered_carriedOut, ← present_of_mem named]
  exact meets.entered_eq distinct t member

end

/-! ### The next plan -/

section

variable {held aims : LiquidityTarget → Int} {targets : List LiquidityTarget}
  {moves : List LiquidityMove} {rows : List (Holder × Int)} {total : Int}

/-- Targets are brought down where nothing is to be added. -/
theorem Meets.removes (meets : Meets held aims targets moves)
    (above : ∀ t ∈ targets, aims t ≤ held t) : ∀ m ∈ moves, m.direction = .remove := by
  induction meets with
  | nil => exact List.forall_mem_nil _
  | kept _ _ ih => exact ih (List.forall_mem_cons.mp above).2
  | @moved t ts m ms _ _ positive met _ ih =>
      obtain ⟨first, others⟩ := List.forall_mem_cons.mp above
      refine List.forall_mem_cons.mpr ⟨?_, ih others⟩
      cases direction : m.direction with
      | add =>
          rw [LiquidityMove.signed, direction] at met
          dsimp only at met
          omega
      | remove => rfl

theorem sum_amount_of_removes (removes : ∀ m ∈ moves, m.direction = .remove) :
    (moves.map (·.amount)).sum = -(moves.map (·.signed)).sum := by
  induction moves with
  | nil => rfl
  | cons m ms ih =>
      obtain ⟨direction, others⟩ := List.forall_mem_cons.mp removes
      simp only [List.map_cons, List.sum_cons, ih others, LiquidityMove.signed, direction]
      omega

theorem planned_eq_nil_iff :
    planned rows targets = [] ↔ ∀ t ∈ targets, present rows t = aim (whole rows) t := by
  rw [planned, List.filterMap_eq_nil_iff]
  refine forall₂_congr fun t _ => ?_
  rw [shift?]
  split
  · exact iff_of_false (Option.some_ne_none _) (by omega)
  · split
    · exact iff_of_false (Option.some_ne_none _) (by omega)
    · exact iff_of_true rfl (by omega)

/-- The plan for holdings of which each is at its share of a total. -/
theorem planned_of_level (distinct : (targets.map (·.holder)).Nodup)
    (shares : ∀ t ∈ targets, 0 ≤ t.share) (full : (targets.map (·.share)).sum = 100)
    (level : Level targets total rows) :
    (∀ m ∈ planned rows targets, m.direction = .remove) ∧
      ((planned rows targets).map (·.amount)).sum < targets.length ∧
        (planned rows targets = [] ↔ Splits targets (whole rows)) := by
  have less : whole rows ≤ total := level.whole_eq distinct ▸ (allotted_bounds full total).2
  have meets : Meets (present rows) (aim (whole rows)) targets (planned rows targets) :=
    meets_filterMap ..
  have removes : ∀ m ∈ planned rows targets, m.direction = .remove :=
    meets.removes fun t member => level.level t member ▸ aim_mono (shares t member) less
  refine ⟨removes, ?_, ?_⟩
  · have held : (targets.map (present rows)).sum = whole rows :=
      (whole_eq_sum_present distinct level.keyed).symm
    have balance := meets.balance
    have amounts := sum_amount_of_removes removes
    have short : whole rows - targets.length < (targets.map (aim (whole rows))).sum :=
      (allotted_bounds full (whole rows)).1
    omega
  · rw [planned_eq_nil_iff, ← allotted_eq_iff full]
    constructor
    · intro even
      have again : Level targets (whole rows) rows := ⟨level.keyed, even⟩
      exact (again.whole_eq distinct).symm
    · intro even t member
      -- Nothing is left over, so together the aims are what they were, and none of them is higher.
      have together : allotted targets total ≤ allotted targets (whole rows) := by
        rw [even, level.whole_eq distinct]
      rw [level.level t member, aim_eq_of_allotted_le shares less together t member]

end

/-! ### Rounds of plans -/

section

variable {targets : List LiquidityTarget} {current : List (Holder × Int)} {w : World Int}

/-- What one round after the other comes to. -/
theorem Rounds.reaches {k : Nat} {last : List (Holder × Int)} {after : World Int}
    (rounds : Rounds targets k current w last after)
    (distinct : (targets.map (·.holder)).Nodup)
    (keyed : (current.map (·.1)).Perm (targets.map (·.holder))) :
    after.journal.bound = w.journal.bound ∧ (last.map (·.1)).Perm (targets.map (·.holder)) ∧
      whole last = (allotted targets)^[k] (whole current) ∧
        (0 < k → ∃ total, Level targets total last) := by
  induction rounds with
  | none rows w => exact ⟨rfl, keyed, rfl, fun some => absurd some (Nat.lt_irrefl 0)⟩
  | @round k rows last _ w between after _ made ih =>
      obtain ⟨bound, keyedLast, total, -⟩ := ih keyed
      obtain ⟨-, rfl, journal, kept, rfl⟩ := of_compute_ok made
      have level := level_carriedOut distinct keyedLast
      -- What is held after a round is what was allotted of the total before it.
      refine ⟨kept.trans bound, level.keyed, ?_, fun _ => ⟨_, level⟩⟩
      rw [level.whole_eq distinct, total, Function.iterate_succ_apply']

/-- The totals of later rounds can be written if the first can. -/
theorem compute_after (full : (targets.map (·.share)).sum = 100)
    (shares : ∀ t ∈ targets, 0 ≤ t.share) (nonneg : ∀ row ∈ current, 0 ≤ row.2)
    (bound : Json.fieldsWritable w.journal.bound = true)
    (total : Numeral.isWritable (whole current) = true)
    (count : Numeral.isWritable targets.length = true) {k : Nat} {last : List (Holder × Int)}
    {between : World Int} (kept : between.journal.bound = w.journal.bound)
    (fallen : whole last = (allotted targets)^[k] (whole current)) :
    ∃ after, (compute last targets).result between = (.ok (planned last targets), after) := by
  have nothing : Splits targets 0 := fun t _ => by rw [Int.zero_mul]; exact Int.dvd_zero 100
  have low := le_allotted_iterate full shares nothing (whole_nonneg nonneg) k
  have high := allotted_iterate_le full (whole current) k
  have fewer := planned_length_le last targets
  refine compute_ok full (kept ▸ bound) (Numeral.isWritable_of_natAbs_le ?_ total)
    (Numeral.isWritable_of_natAbs_le ?_ count)
  · omega
  · omega

theorem rounds_go_on (distinct : (targets.map (·.holder)).Nodup)
    (keyed : (current.map (·.1)).Perm (targets.map (·.holder)))
    (full : (targets.map (·.share)).sum = 100) (shares : ∀ t ∈ targets, 0 ≤ t.share)
    (nonneg : ∀ row ∈ current, 0 ≤ row.2) (bound : Json.fieldsWritable w.journal.bound = true)
    (total : Numeral.isWritable (whole current) = true)
    (count : Numeral.isWritable targets.length = true) (k : Nat) :
    ∃ last after, Rounds targets k current w last after := by
  induction k with
  | zero => exact ⟨current, w, .none current w⟩
  | succ k ih =>
      obtain ⟨last, between, rounds⟩ := ih
      obtain ⟨kept, -, fallen, -⟩ := rounds.reaches distinct keyed
      obtain ⟨after, made⟩ :=
        compute_after full shares nonneg bound total count kept fallen
      exact ⟨_, after, .round rounds made⟩

end

/-- After a plan that was carried out in full, the next one adds nothing and takes back less than a
    unit for each target; it is empty exactly if the shares split what is held by then, and so it is
    if the first plan left nothing over. Within ninety-nine plans there is nothing more to move,
    and held is the most of the first total that the shares split. -/
theorem compute_settles (current : List (Holder × Int)) (targets : List LiquidityTarget)
    (w : World Int) (distinct : (targets.map (·.holder)).Nodup)
    (keyed : (current.map (·.1)).Perm (targets.map (·.holder)))
    (full : (targets.map (·.share)).sum = 100) (shares : ∀ t ∈ targets, 0 ≤ t.share)
    (nonneg : ∀ row ∈ current, 0 ≤ row.2) (bound : Json.fieldsWritable w.journal.bound = true)
    (total : Numeral.isWritable (whole current) = true)
    (count : Numeral.isWritable targets.length = true) :
    (∃ moves between again last,
      (compute current targets).result w = (.ok moves, between) ∧
      (compute (carriedOut moves current) targets).result between = (.ok again, last) ∧
      (∀ m ∈ again, m.direction = .remove) ∧ (again.map (·.amount)).sum < targets.length ∧
      (again = [] ↔ Splits targets (whole (carriedOut moves current))) ∧
      (whole (carriedOut moves current) = whole current → again = [])) ∧
    ∀ k, (∃ rows after, Rounds targets k current w rows after) ∧
      (99 ≤ k → ∀ rows after, Rounds targets k current w rows after →
        (∃ last, (compute rows targets).result after = (.ok [], last)) ∧
          Splits targets (whole rows) ∧ whole rows ≤ whole current ∧
            ∀ other ≤ whole current, Splits targets other → other ≤ whole rows) := by
  refine ⟨?_, fun k =>
    ⟨rounds_go_on distinct keyed full shares nonneg bound total count k, ?_⟩⟩
  · obtain ⟨between, first⟩ :=
      compute_after full shares nonneg bound total count (k := 0) rfl rfl
    have once : Rounds targets 1 current w (carriedOut (planned current targets) current) between :=
      .round (.none current w) first
    obtain ⟨kept, -, fallen, -⟩ := once.reaches distinct keyed
    obtain ⟨last, second⟩ := compute_after full shares nonneg bound total count kept fallen
    have level := level_carriedOut distinct keyed
    obtain ⟨removes, few, empty⟩ := planned_of_level distinct shares full level
    refine ⟨_, between, _, last, first, second, removes, few, empty, fun even => empty.mpr ?_⟩
    rw [even, ← allotted_eq_iff full, ← level.whole_eq distinct, even]
  · intro enough rows after rounds
    obtain ⟨kept, -, fallen, leveled⟩ := rounds.reaches distinct keyed
    obtain ⟨held, level⟩ := leveled (by omega)
    have splits : Splits targets (whole rows) := fallen ▸ splits_iterate full shares _ enough
    obtain ⟨last, made⟩ := compute_after full shares nonneg bound total count kept fallen
    have empty := (planned_of_level distinct shares full level).2.2.mpr splits
    refine ⟨⟨last, empty ▸ made⟩, splits, fallen ▸ allotted_iterate_le full _ k, ?_⟩
    intro other below splitsOther
    exact fallen ▸ le_allotted_iterate full shares splitsOther below k

/-- Targets at a pool of each venue. -/
def unevenTargets : List LiquidityTarget :=
  [⟨.raydium, "A", 30⟩, ⟨.jupiter, "A", 30⟩, ⟨.serum, "A", 40⟩]

/-- Five units, all of them in one of the pools. -/
def fiveUnits : List (Holder × Int) :=
  [((.raydium, some (.text "A")), 5), ((.jupiter, some (.text "A")), 0),
    ((.serum, some (.text "A")), 0)]

theorem fiveUnits_settle :
    (unevenTargets.map (·.holder)).Nodup ∧
      (fiveUnits.map (·.1)).Perm (unevenTargets.map (·.holder)) ∧
      (unevenTargets.map (·.share)).sum = 100 ∧ (∀ t ∈ unevenTargets, 0 ≤ t.share) ∧
      (∀ row ∈ fiveUnits, 0 ≤ row.2) ∧
      ∃ rows after, Rounds unevenTargets 99 fiveUnits { settings := .standard } rows after ∧
        ∃ last, (compute rows unevenTargets).result after = (.ok [], last) := by
  refine ⟨by decide, .refl _, by decide, by decide, by decide, ?_⟩
  obtain ⟨-, later⟩ := compute_settles fiveUnits unevenTargets { settings := .standard }
    (by decide) (.refl _) (by decide) (by decide) (by decide) rfl
    (Numeral.isWritable_of_small (by decide) (by decide))
    (Numeral.isWritable_of_small (by decide) (by decide))
  obtain ⟨⟨rows, after, rounds⟩, settled⟩ := later 99
  exact ⟨rows, after, rounds, (settled (le_refl 99) rows after rounds).1⟩

/-- The first plan leaves one unit over, and the second takes one more. -/
theorem fiveUnits_unsettled :
    (unevenTargets.map (·.holder)).Nodup ∧
      (fiveUnits.map (·.1)).Perm (unevenTargets.map (·.holder)) ∧
      (unevenTargets.map (·.share)).sum = 100 ∧ (∀ row ∈ fiveUnits, 0 ≤ row.2) ∧
      ∃ moves between last,
        (compute fiveUnits unevenTargets).result { settings := .standard } =
          (.ok moves, between) ∧
        (compute (carriedOut moves fiveUnits) unevenTargets).result between =
          (.ok [⟨.serum, "A", 1, .remove⟩], last) := by
  refine ⟨by decide, .refl _, by decide, by decide, ?_⟩
  have first : ∃ between, (compute fiveUnits unevenTargets).result { settings := .standard } =
      (.ok (planned fiveUnits unevenTargets), between) :=
    compute_ok (by decide) rfl (Numeral.isWritable_of_small (by decide) (by decide))
      (Numeral.isWritable_of_small (by decide) (by decide))
  obtain ⟨between, first⟩ := first
  obtain ⟨-, -, journal, kept, rfl⟩ := of_compute_ok first
  have again : planned (carriedOut (planned fiveUnits unevenTargets) fiveUnits) unevenTargets =
      [⟨.serum, "A", 1, .remove⟩] := by decide
  have bound : Json.fieldsWritable journal.bound = true := by rw [kept]; rfl
  have second : ∃ last, (compute (carriedOut (planned fiveUnits unevenTargets) fiveUnits)
      unevenTargets).result { settings := .standard, journal } = (.ok (planned _ _), last) :=
    compute_ok (by decide) bound (Numeral.isWritable_of_small (by decide) (by decide))
      (Numeral.isWritable_of_small (by decide) (by decide))
  obtain ⟨last, second⟩ := second
  exact ⟨_, _, last, first, again ▸ second⟩

end Rebalance

end TradingEngine
