import Mathlib.Algebra.BigOperators.Group.List.Basic
import Mathlib.Algebra.Ring.Int.Defs
import TradingEngine.Proofs.Wording

/-! # Totals of trades in any order

Callers settle runs in whatever order they finish. A trade adds to the sum and to one of the two
counts, and it raises one of the two extremes, so the totals after some trades can be read off the
trades without their order. The journal is told of every trade and of the sum so far, and only this
depends on the order: a sum with too many digits on the way cannot be told, and then there are no
totals.
-/

namespace TradingEngine

open Engine Quantity

/-- An entry that is not shown is taken whatever is in it. -/
theorem Journal.write_hidden {j : Journal} {level : Level} (hidden : j.shows level = false)
    (event : Text) (fields : Fields) : ∃ after, j.write level event fields = .ok after := by
  simp only [write, note, add, hidden, Bool.false_and, Bool.false_eq_true, if_false]
  exact ⟨_, rfl⟩

namespace Metrics

/-- The totals after one more trade. -/
def plus (m : Metrics Int) (profitLoss : Int) : Metrics Int :=
  if 0 < profitLoss then
    { m with
      totalProfitLoss := m.totalProfitLoss + profitLoss
      winCount := m.winCount + 1
      largestProfit := max m.largestProfit profitLoss }
  else
    { m with
      totalProfitLoss := m.totalProfitLoss + profitLoss
      lossCount := m.lossCount + 1
      largestLoss := max m.largestLoss (-profitLoss) }

/-- The totals after these trades: their sum, how many of them were won and lost, and the extremes
    over those. -/
def plusAll (m : Metrics Int) (results : List Int) : Metrics Int where
  totalProfitLoss := m.totalProfitLoss + results.sum
  winCount := m.winCount + results.countP (0 < ·)
  lossCount := m.lossCount + results.countP (· ≤ 0)
  largestProfit := (results.filter (0 < ·)).foldl max m.largestProfit
  largestLoss := ((results.filter (· ≤ 0)).map (- ·)).foldl max m.largestLoss

/-- What is journalled of a trade. -/
def entry (m : Metrics Int) (profitLoss : Int) : Fields :=
  [("profit_or_loss", .int profitLoss),
    ("total_profit_loss", .int (m.plus profitLoss).totalProfitLoss),
    ("trades", .int (m.plus profitLoss).totalTrades)]

/-- Whether a journal can be told of every one of these trades, with the sum and the number of
    trades so far. -/
def Tellable (j : Journal) (m : Metrics Int) (results : List Int) : Prop :=
  j.shows .info = true →
    Json.fieldsWritable j.bound = true ∧ (∀ n ∈ results, Numeral.isWritable n = true) ∧
      ∀ told, told ≠ [] → told <+: results →
        Numeral.isWritable (m.totalProfitLoss + told.sum) = true ∧
          Numeral.isWritable (m.totalTrades + told.length) = true

/-- Whether these trades are folded into the totals somewhere, with these totals as the result. -/
def Folds (m : Metrics Int) (results : List Int) (settled : Metrics Int) : Prop :=
  ∃ w after, (m.recordAll results).result w = (.ok settled, after)

/-- The totals that can be come by from those of an account without trades. -/
inductive Reached : Metrics Int → Prop
  | fresh : Reached .none
  | recorded {m settled : Metrics Int} {profitLoss : Int} {w after : World Int} : Reached m →
      (m.record profitLoss).result w = (.ok settled, after) → Reached settled
  | folded {m settled : Metrics Int} {results : List Int} : Reached m → m.Folds results settled →
      Reached settled

variable {m settled : Metrics Int} {results other : List Int} {j journal : Journal} {n : Int}

/-! ### One trade -/

theorem max_eq (a b : Int) : Quantity.max a b = .ok (max a b) := by
  rw [Quantity.max, lt_int, Except.ok_bind]
  refine congrArg Except.ok ?_
  simp only [decide_eq_true_eq]
  split <;> omega

theorem add_eq (m : Metrics Int) (profitLoss : Int) :
    m.add profitLoss = .ok (m.plus profitLoss) := by
  rw [add, plus, lt_int, ofInt_int, Except.ok_bind]
  by_cases won : 0 < profitLoss
  · rw [decide_eq_true won, if_pos rfl, if_pos won, max_eq]
    rfl
  · rw [decide_eq_false won, if_neg Bool.false_ne_true, if_neg won, add_int,
      Except.ok_bind, neg_int, Except.ok_bind, max_eq]
    rfl

@[simp] theorem plus_totalProfitLoss (m : Metrics Int) (n : Int) :
    (m.plus n).totalProfitLoss = m.totalProfitLoss + n := by
  unfold plus
  split <;> rfl

@[simp] theorem plus_totalTrades (m : Metrics Int) (n : Int) :
    (m.plus n).totalTrades = m.totalTrades + 1 := by
  unfold plus totalTrades
  split <;> dsimp only <;> omega

/-- A trade is folded in exactly if it can be journalled. -/
theorem record_result (m : Metrics Int) (n : Int) (w : World Int) :
    (m.record n).result w =
      match w.journal.write .info "METRICS_UPDATED" (m.entry n) with
      | .ok journal => (.ok (m.plus n), { w with journal })
      | .error b => (.error (.breakdown b), w) := by
  rw [record, result_bind, result_ofExcept, add_eq]
  dsimp only
  rw [result_bind, result_log, entry]
  dsimp only [toJson_int]
  cases w.journal.write .info "METRICS_UPDATED" _ <;> rfl

theorem Tellable.head (tells : m.Tellable j (n :: results)) :
    ∃ after, j.write .info "METRICS_UPDATED" (m.entry n) = .ok after := by
  cases shown : j.shows .info with
  | false => exact Journal.write_hidden shown _ _
  | true =>
      obtain ⟨bound, own, running⟩ := tells shown
      obtain ⟨total, trades⟩ := running [n] (List.cons_ne_nil n [])
        (List.cons_prefix_cons.mpr ⟨rfl, List.nil_prefix⟩)
      rw [List.sum_singleton] at total
      rw [List.length_singleton, Int.natCast_one] at trades
      refine Journal.write_ok _ _ bound ?_
      simp only [entry, Json.fieldsWritable, Json.isWritable, own n List.mem_cons_self,
        plus_totalProfitLoss, plus_totalTrades, total, trades, Bool.and_self]

theorem Tellable.tail (tells : m.Tellable j (n :: results))
    (written : j.write .info "METRICS_UPDATED" (m.entry n) = .ok journal) :
    (m.plus n).Tellable journal results := by
  intro shown
  have same : journal.shows .info = j.shows .info := by
    rw [Journal.shows, Journal.threshold_write written, Journal.shows]
  obtain ⟨bound, own, running⟩ := tells (same ▸ shown)
  refine ⟨Journal.bound_write written ▸ bound,
    fun k member => own k (List.mem_cons_of_mem n member), fun told _ among => ?_⟩
  obtain ⟨total, trades⟩ := running (n :: told) (List.cons_ne_nil n told)
    (List.cons_prefix_cons.mpr ⟨rfl, among⟩)
  rw [List.sum_cons, ← Int.add_assoc] at total
  rw [List.length_cons, Int.natCast_succ, Int.add_comm (told.length : Int),
    ← Int.add_assoc] at trades
  rw [plus_totalProfitLoss, plus_totalTrades]
  exact ⟨total, trades⟩

/-! ### All trades -/

@[simp] theorem plusAll_nil (m : Metrics Int) : m.plusAll [] = m := by
  simp [plusAll]

theorem plusAll_cons (m : Metrics Int) (n : Int) (results : List Int) :
    m.plusAll (n :: results) = (m.plus n).plusAll results := by
  by_cases won : 0 < n
  · have lost : ¬ n ≤ 0 := Int.not_le.mpr won
    simp only [plusAll, plus, List.sum_cons, List.countP_cons, List.filter_cons, won, lost,
      decide_true, decide_false, if_true, if_false, Bool.false_eq_true, List.foldl_cons]
    congr 1 <;> omega
  · have lost : n ≤ 0 := Int.not_lt.mp won
    simp only [plusAll, plus, List.sum_cons, List.countP_cons, List.filter_cons, won, lost,
      decide_true, decide_false, if_true, if_false, Bool.false_eq_true, List.map_cons,
      List.foldl_cons]
    congr 1 <;> omega

theorem plusAll_append (m : Metrics Int) (first second : List Int) :
    m.plusAll (first ++ second) = (m.plusAll first).plusAll second := by
  induction first generalizing m with
  | nil => rw [List.nil_append, plusAll_nil]
  | cons n first ih => rw [List.cons_append, plusAll_cons, plusAll_cons, ih]

/-- Sums, counts and extremes do not depend on the order. -/
theorem plusAll_perm (m : Metrics Int) (same : results.Perm other) :
    m.plusAll results = m.plusAll other := by
  simp only [plusAll, same.sum_eq, same.countP_eq, (same.filter _).foldl_eq,
    ((same.filter _).map _).foldl_eq]

/-- Trades are folded one after the other into their totals, or one of them cannot be told. -/
theorem recordAll_ends (m : Metrics Int) (results : List Int) (w : World Int) :
    ((m.recordAll results).result w).1 = .ok (m.plusAll results) ∨
      ((m.recordAll results).result w).1 = .error (.breakdown .tooManyDigits) ∧
        ¬ m.Tellable w.journal results := by
  induction results generalizing m w with
  | nil => exact .inl (congrArg Except.ok m.plusAll_nil.symm)
  | cons n rest ih =>
      rw [recordAll, List.foldlM_cons, result_bind, record_result, plusAll_cons]
      cases written : w.journal.write .info "METRICS_UPDATED" (m.entry n) with
      | error b =>
          refine .inr ⟨?_, fun tells => ?_⟩
          · rw [Journal.of_write_error written]
          · obtain ⟨_, taken⟩ := tells.head
            cases written.symm.trans taken
      | ok journal =>
          refine (ih (m.plus n) { w with journal }).imp_right fun broken => ?_
          exact ⟨broken.1, fun tells => broken.2 (tells.tail written)⟩

theorem Folds.eq (h : m.Folds results settled) : settled = m.plusAll results := by
  obtain ⟨w, after, ran⟩ := h
  have ends := m.recordAll_ends results w
  rw [ran] at ends
  rcases ends with returned | broken
  · exact Except.ok.inj returned
  · cases broken.1

/-- Totals that were found without a fault are those after these trades. -/
theorem folds_of_isOk {w : World Int} (returned : ((m.recordAll results).result w).1.isOk = true) :
    m.Folds results (m.plusAll results) := by
  refine ⟨w, _, Prod.ext ((m.recordAll_ends results w).resolve_right fun broken => ?_) rfl⟩
  rw [broken.1] at returned
  cases returned

/-! ### The win rate -/

theorem folds_of_record {w after : World Int} (h : (m.record n).result w = (.ok settled, after)) :
    m.Folds [n] settled := by
  refine ⟨w, after, ?_⟩
  rw [recordAll, List.foldlM_cons, result_bind, h]
  rfl

/-- Trades are counted from nothing on. -/
theorem Reached.counts (reached : m.Reached) : 0 ≤ m.winCount ∧ 0 ≤ m.lossCount := by
  have more {m settled : Metrics Int} {results : List Int}
      (counts : 0 ≤ m.winCount ∧ 0 ≤ m.lossCount) (folds : m.Folds results settled) :
      0 ≤ settled.winCount ∧ 0 ≤ settled.lossCount := by
    rw [folds.eq, plusAll]
    dsimp only
    omega
  induction reached with
  | fresh => exact ⟨Int.le_refl 0, Int.le_refl 0⟩
  | recorded _ ran counts => exact more counts (folds_of_record ran)
  | folded _ folds counts => exact more counts folds

theorem winRate_bounds (wins : 0 ≤ m.winCount) (losses : 0 ≤ m.lossCount) :
    0 ≤ m.winRate ∧ m.winRate ≤ 100 := by
  rw [winRate, totalTrades]
  split
  · decide
  · rw [Int.fdiv_eq_ediv_of_nonneg _ (by omega)]
    exact ⟨Int.ediv_nonneg (by omega) (by omega), Int.ediv_le_of_le_mul (by omega) (by omega)⟩

/-- Trades are folded into their totals, or the journal cannot be told of one of them. The totals
    are the same in any order of the trades, and in either order of two runs, wherever these are
    settled. From an account without trades on, the win rate is a percentage. -/
theorem recordAll_in_any_order (m : Metrics Int) :
    (∀ (results : List Int) (w : World Int),
      ((m.recordAll results).result w).1 = .ok (m.plusAll results) ∨
        ((m.recordAll results).result w).1 = .error (.breakdown .tooManyDigits) ∧
          ¬ m.Tellable w.journal results) ∧
    (∀ results other : List Int, results.Perm other → m.plusAll results = m.plusAll other ∧
      ∀ settled again, m.Folds results settled → m.Folds other again → settled = again) ∧
    (∀ first second : List Int,
      (m.plusAll first).plusAll second = (m.plusAll second).plusAll first ∧
      ∀ between settled instead again, m.Folds first between → between.Folds second settled →
        m.Folds second instead → instead.Folds first again → settled = again) ∧
    (m.Reached → 0 ≤ m.winRate ∧ m.winRate ≤ 100) := by
  have either (first second : List Int) :
      (m.plusAll first).plusAll second = (m.plusAll second).plusAll first := by
    rw [← plusAll_append, ← plusAll_append, m.plusAll_perm List.perm_append_comm]
  refine ⟨m.recordAll_ends, fun results other same => ⟨m.plusAll_perm same, ?_⟩,
    fun first second => ⟨either first second, ?_⟩, fun reached => ?_⟩
  · intro settled again first second
    rw [first.eq, second.eq, m.plusAll_perm same]
  · intro between settled instead again here next there last
    rw [next.eq, here.eq, last.eq, there.eq, either]
  · exact winRate_bounds reached.counts.1 reached.counts.2

/-- Two trades are won and one is lost. -/
theorem threeTrades_in_any_order :
    ∃ settled : Metrics Int, Metrics.none.Folds [50, -20, 30] settled ∧
      Metrics.none.Folds [30, 50, -20] settled ∧ settled.totalProfitLoss = 60 ∧
      settled.largestLoss = 20 ∧ settled.winRate = 66 ∧ 0 ≤ settled.winRate ∧
      settled.winRate ≤ 100 := by
  have one : Metrics.none.Folds [50, -20, 30] (plusAll .none [50, -20, 30]) :=
    folds_of_isOk (w := { settings := .standard }) (by decide +kernel)
  have another : Metrics.none.Folds [30, 50, -20] (plusAll .none [30, 50, -20]) :=
    folds_of_isOk (w := { settings := .standard }) (by decide +kernel)
  obtain ⟨-, ordered, -, -⟩ := recordAll_in_any_order .none
  have same := (ordered [50, -20, 30] [30, 50, -20] (by decide)).2 _ _ one another
  obtain ⟨-, -, -, rate⟩ := recordAll_in_any_order (plusAll .none [50, -20, 30])
  exact ⟨_, one, same ▸ another, rfl, rfl, rfl, rate (.folded .fresh one)⟩

/-- A number with as many digits as can be written. -/
def vast : Int := (9 * 10 ^ 4299 : Nat)

/-- An account that has gained so much. -/
def vastTotals : Metrics Int := { (none : Metrics Int) with totalProfitLoss := vast }

/-- Gaining the same once more and losing it again has totals only if the loss comes first. -/
theorem vastTotals_tell_order :
    [vast, -vast].Perm [-vast, vast] ∧
      ((vastTotals.recordAll [vast, -vast]).result { settings := .standard }).1 =
        .error (.breakdown .tooManyDigits) ∧
      vastTotals.Folds [-vast, vast] (vastTotals.plusAll [vast, -vast]) := by
  have order : [vast, -vast].Perm [-vast, vast] := .swap _ _ _
  have broken : ((vastTotals.recordAll [vast, -vast]).result { settings := .standard }).1.isOk =
      false := by decide +kernel
  refine ⟨order, ?_, ?_⟩
  · refine ((recordAll_ends _ _ _).resolve_left fun returned => ?_).1
    rw [returned] at broken
    cases broken
  · rw [vastTotals.plusAll_perm order]
    exact folds_of_isOk (w := { settings := .standard }) (by decide +kernel)

end Metrics

end TradingEngine
