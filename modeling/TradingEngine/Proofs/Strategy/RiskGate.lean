import Mathlib.Algebra.Ring.Int.Defs
import Mathlib.Algebra.Ring.Nat
import TradingEngine.Proofs.Except
import TradingEngine.Proofs.Strategy.Invariant

/-! # The risk gate over many runs

Inside a run the gate adds what the run has realised so far to the caller's totals; between runs the
caller settles the outcome into the totals. Both come to the same sum, so over a whole sequence of
runs every trade is judged by the profit of all trades before it. Once that sum is below the loss
limit no gate lets an action through any more.
-/

namespace TradingEngine

open Engine Quantity

/-- The profit of these trades. -/
def profitOf (trades : List ExecutedTrade) : Int := (trades.map (·.profitLoss)).sum

@[simp] theorem profitOf_nil : profitOf [] = 0 := rfl

@[simp] theorem profitOf_cons (t : ExecutedTrade) (trades : List ExecutedTrade) :
    profitOf (t :: trades) = t.profitLoss + profitOf trades := by
  simp [profitOf]

@[simp] theorem profitOf_append (first second : List ExecutedTrade) :
    profitOf (first ++ second) = profitOf first + profitOf second := by
  simp [profitOf]

/-- Each of these trades was within the limits when it was made: none is larger than a trade may be,
    and what was realised before it, from `start` on, was not below the loss limit. -/
def Gated (risk : RiskLimits) (start : Int) (trades : List ExecutedTrade) : Prop :=
  ∀ earlier trade later, trades = earlier ++ trade :: later →
    trade.amountIn ≤ risk.maxTradeSize ∧ -risk.dailyLossLimit ≤ start + profitOf earlier

namespace Gated

variable {risk : RiskLimits} {start : Int}

theorem nil : Gated risk start [] := by
  intro earlier trade later split
  simp at split

theorem cons {trade : ExecutedTrade} {rest : List ExecutedTrade}
    (size : trade.amountIn ≤ risk.maxTradeSize) (within : -risk.dailyLossLimit ≤ start)
    (later : Gated risk (start + trade.profitLoss) rest) : Gated risk start (trade :: rest) := by
  intro earlier other after split
  cases earlier with
  | nil =>
      cases split
      exact ⟨size, by simpa using within⟩
  | cons first earlier =>
      cases split
      have judged := later earlier other after rfl
      rw [Int.add_assoc] at judged
      exact ⟨judged.1, by simpa using judged.2⟩

theorem head {trade : ExecutedTrade} {rest : List ExecutedTrade}
    (h : Gated risk start (trade :: rest)) :
    trade.amountIn ≤ risk.maxTradeSize ∧ -risk.dailyLossLimit ≤ start := by
  simpa using h [] trade rest rfl

theorem tail {trade : ExecutedTrade} {rest : List ExecutedTrade}
    (h : Gated risk start (trade :: rest)) : Gated risk (start + trade.profitLoss) rest := by
  intro earlier other after split
  have judged := h (trade :: earlier) other after (by rw [split]; rfl)
  rw [profitOf_cons, ← Int.add_assoc] at judged
  exact judged

theorem append {first second : List ExecutedTrade} (h : Gated risk start first)
    (k : Gated risk (start + profitOf first) second) : Gated risk start (first ++ second) := by
  induction first generalizing start with
  | nil => simpa using k
  | cons trade rest ih =>
      refine cons h.head.1 h.head.2 (ih h.tail ?_)
      rw [Int.add_assoc, ← profitOf_cons]
      exact k

/-- Below the loss limit there are no trades. -/
theorem eq_nil_of_breached {trades : List ExecutedTrade} (h : Gated risk start trades)
    (breached : start < -risk.dailyLossLimit) : trades = [] := by
  cases trades with
  | nil => rfl
  | cons trade rest =>
      have judged := h.head.2
      omega

end Gated

/-! ### One run -/

/-- What the gate of a run has seen to between two machines. -/
structure Machine.Gated (ctx : Context Int) (m after : Machine Int) : Prop where
  trades : ∃ new, after.state.trades = m.state.trades ++ new ∧
    after.state.executedBlockIds = m.state.executedBlockIds ++ new.map (·.source) ∧
    TradingEngine.Gated ctx.risk (ctx.metrics.totalProfitLoss + profitOf m.state.trades) new
  halted : ctx.metrics.totalProfitLoss + profitOf m.state.trades < -ctx.risk.dailyLossLimit →
    after.world.venues = m.world.venues

theorem Machine.Steady.gated {ctx : Context Int} {m after : Machine Int} (h : m.Steady after) :
    m.Gated ctx after := by
  refine ⟨⟨[], ?_, ?_, .nil⟩, fun _ => h.venues⟩
  · rw [h.trades, List.append_nil]
  · rw [h.executed]
    exact (List.append_nil _).symm

instance (ctx : Context Int) : Frame (Machine.Gated ctx) where
  refl _ := Machine.Steady.gated ⟨rfl, rfl, rfl⟩
  trans {a b c} h k := by
    obtain ⟨first, made, executed, gated⟩ := h.trades
    obtain ⟨second, later, further, judged⟩ := k.trades
    rw [made, profitOf_append, ← Int.add_assoc] at judged
    refine ⟨⟨first ++ second, ?_, ?_, gated.append judged⟩, fun breached => ?_⟩
    · rw [later, made, List.append_assoc]
    · rw [further, executed, List.map_append, List.append_assoc]
    -- nothing was traded on the first part, so the second starts below the limit as well
    · have none := gated.eq_nil_of_breached breached
      rw [none, List.append_nil] at made
      exact (k.halted (made ▸ breached)).trans (h.halted breached)

/-- The limits are asked one after the other, and only the second one reads the totals. -/
theorem RiskLimits.broken?_int (risk : RiskLimits) (metrics : Metrics Int) (size : Int) :
    risk.broken? metrics size = .ok (if risk.maxTradeSize < size then some .maxTradeSize
      else if metrics.totalProfitLoss < -risk.dailyLossLimit then some .dailyLoss else none) := by
  simp only [broken?, ofInt_int, lt_int, Except.ok_bind, decide_eq_true_eq]
  split
  · rfl
  · split <;> rfl

theorem RiskLimits.of_unbroken {risk : RiskLimits} {metrics : Metrics Int} {size : Int}
    (h : risk.broken? metrics size = .ok none) :
    size ≤ risk.maxTradeSize ∧ -risk.dailyLossLimit ≤ metrics.totalProfitLoss := by
  rw [broken?_int] at h
  split at h
  · cases h
  · split at h
    · cases h
    · omega

theorem Run.of_allowed {ctx : Context Int} {s : RunState} {size : Int}
    (h : Run.Allowed ctx s size) :
    size ≤ ctx.risk.maxTradeSize ∧
      -ctx.risk.dailyLossLimit ≤ ctx.metrics.totalProfitLoss + profitOf s.trades := by
  obtain ⟨total, sum, unbroken⟩ := h
  cases sum
  exact RiskLimits.of_unbroken unbroken

theorem Run.kept_gated (ctx : Context Int) : Run.Kept ctx (Machine.Gated ctx) where
  steady := Machine.Steady.gated
  action {block size m r} attempt := by
    cases attempt with
    | refused stop after _ quiet => exact quiet.steady.gated
    | abandoned stop after _ allowed idle =>
        have within := (Run.of_allowed allowed).2
        refine ⟨⟨[], ?_, ?_, .nil⟩, fun breached => ?_⟩
        · rw [idle.trades, List.append_nil]
        · rw [idle.executed]
          exact (List.append_nil _).symm
        · omega
    | recorded ended after trade _ allowed reports recorded =>
        obtain ⟨size_ok, within⟩ := Run.of_allowed allowed
        obtain ⟨venue, pool, token, amountOut, gain, now, made⟩ := reports
        cases made
        refine ⟨⟨[_], recorded.trades, recorded.executed, .cons size_ok within .nil⟩, ?_⟩
        intro breached
        omega

/-! ### Many runs -/

theorem Metrics.of_record_ok {m updated : Metrics Int} {profitLoss : Int} {w after : World Int}
    (h : (m.record profitLoss).result w = (.ok updated, after)) :
    updated.totalProfitLoss = m.totalProfitLoss + profitLoss := by
  obtain ⟨added, _, sum, h⟩ := Engine.of_bind_ok h
  obtain ⟨_, _, _, h⟩ := Engine.of_bind_ok h
  cases h
  rw [Engine.result_ofExcept] at sum
  obtain ⟨sum, _⟩ := Prod.mk.inj sum
  obtain ⟨win, _, sum⟩ := Except.of_bind_ok sum
  cases win with
  | true =>
      cases sum
      rfl
  | false =>
      cases sum
      rfl

theorem Metrics.of_recordAll_ok {results : List Int} {m updated : Metrics Int}
    {w after : World Int} (h : (m.recordAll results).result w = (.ok updated, after)) :
    updated.totalProfitLoss = m.totalProfitLoss + results.sum := by
  induction results generalizing m w with
  | nil =>
      cases h
      simp
  | cons profitLoss rest ih =>
      obtain ⟨between, _, first, later⟩ := Engine.of_bind_ok h
      rw [ih later, Metrics.of_record_ok first, List.sum_cons, Int.add_assoc]

/-- Settling an outcome adds the profit of its trades, the very sum that the gate has added up. -/
theorem RunReport.of_settle_ok {outcome : RunReport} {m settled : Metrics Int}
    {w after : World Int} (h : (outcome.settle m).result w = (.ok settled, after)) :
    settled.totalProfitLoss = m.totalProfitLoss + profitOf outcome.state.trades :=
  Metrics.of_recordAll_ok h

/-- A run that returned an outcome. -/
structure FinishedRun where
  options : RunOptions Int
  blocks : List Block
  ctx : Context Int
  before : World Int
  outcome : RunReport
  after : World Int
  ran : (Interpreter.run options blocks ctx).result before = (.ok outcome, after)

namespace FinishedRun

/-- The trades of these runs, in order. -/
def trades (runs : List FinishedRun) : List ExecutedTrade :=
  runs.flatMap (·.outcome.state.trades)

theorem gated (run : FinishedRun) :
    Gated run.ctx.risk run.ctx.metrics.totalProfitLoss run.outcome.state.trades ∧
      run.outcome.state.executedBlockIds = run.outcome.state.trades.map (·.source) ∧
      (run.ctx.metrics.totalProfitLoss < -run.ctx.risk.dailyLossLimit →
        run.after.venues = run.before.venues) := by
  obtain ⟨machine, ⟨⟨new, made, executed, gated⟩, halted⟩, same, venues⟩ :=
    Interpreter.kept_of_run (Run.kept_gated run.ctx) run.ran
  rw [profitOf_nil, Int.add_zero] at gated halted
  rw [List.nil_append] at made executed
  rw [same, executed, made]
  exact ⟨gated, rfl, fun breached => venues.trans (halted breached)⟩

end FinishedRun

/-- Runs under the same limits, the first on totals `start` and each on those to which the outcome
    of the run before it was settled. Between two runs the world may change in any way. -/
inductive Settled (risk : RiskLimits) : Metrics Int → List FinishedRun → Metrics Int → Prop
  | nil (start : Metrics Int) : Settled risk start [] start
  | cons {start between stop : Metrics Int} {run : FinishedRun} {rest : List FinishedRun}
      {w after : World Int} :
      run.ctx.risk = risk → run.ctx.metrics = start →
      (run.outcome.settle start).result w = (.ok between, after) →
      Settled risk between rest stop → Settled risk start (run :: rest) stop

namespace Settled

variable {risk : RiskLimits} {start stop : Metrics Int} {runs : List FinishedRun}

theorem gated (h : Settled risk start runs stop) :
    Gated risk start.totalProfitLoss (FinishedRun.trades runs) := by
  induction h with
  | nil => exact .nil
  | cons limits totals settled _ ih =>
      subst limits totals
      rw [RunReport.of_settle_ok settled] at ih
      exact (FinishedRun.gated _).1.append ih

/-- The totals of a run in the middle are those of all trades before it. -/
theorem total_before {earlier later : List FinishedRun} {run : FinishedRun}
    (h : Settled risk start (earlier ++ run :: later) stop) :
    run.ctx.risk = risk ∧
      run.ctx.metrics.totalProfitLoss =
        start.totalProfitLoss + profitOf (FinishedRun.trades earlier) := by
  induction earlier generalizing start with
  | nil =>
      cases h with
      | cons limits totals _ _ => exact ⟨limits, by simp [totals, FinishedRun.trades]⟩
  | cons first earlier ih =>
      cases h with
      | cons _ _ settled rest =>
          obtain ⟨limits, total⟩ := ih rest
          rw [RunReport.of_settle_ok settled, Int.add_assoc, ← profitOf_append] at total
          exact ⟨limits, total⟩

end Settled

/-- Over runs on settled totals, every trade is within the size limit, and the profit of all trades
    before it, with which the first run started included, was not below the loss limit. Once that
    sum was below it, later runs execute nothing and change no venue. -/
theorem Settled.limits_kept {risk : RiskLimits} {start stop : Metrics Int}
    {runs : List FinishedRun} (settled : Settled risk start runs stop) :
    (∀ earlier trade later, FinishedRun.trades runs = earlier ++ trade :: later →
      trade.amountIn ≤ risk.maxTradeSize ∧
        -risk.dailyLossLimit ≤ start.totalProfitLoss + profitOf earlier) ∧
    ∀ earlier run later seen, runs = earlier ++ run :: later →
      seen <+: FinishedRun.trades earlier →
      start.totalProfitLoss + profitOf seen < -risk.dailyLossLimit →
        run.outcome.state.trades = [] ∧ run.outcome.state.executedBlockIds = [] ∧
          run.after.venues = run.before.venues := by
  refine ⟨settled.gated, ?_⟩
  rintro earlier run later seen rfl ⟨unseen, whole⟩ breached
  obtain ⟨limits, total⟩ := settled.total_before
  -- the sum cannot have recovered before this run, since nothing was traded after `seen`
  have none_since : unseen = [] := by
    cases unseen with
    | nil => rfl
    | cons trade rest =>
        have judged := settled.gated seen trade (rest ++ FinishedRun.trades (run :: later)) (by
          rw [← List.cons_append, ← List.append_assoc, whole]
          exact List.flatMap_append)
        omega
  rw [none_since, List.append_nil] at whole
  rw [← whole] at total
  rw [← total] at breached
  obtain ⟨gated, executed, halted⟩ := run.gated
  rw [limits] at gated halted
  have none := gated.eq_nil_of_breached breached
  exact ⟨none, by rw [executed, none]; rfl, halted breached⟩

/-! ### A run that loses too much -/

/-- A run on a world on which it returns an outcome. -/
def FinishedRun.take (options : RunOptions Int) (blocks : List Block) (ctx : Context Int)
    (before : World Int)
    (returns : ((Interpreter.run options blocks ctx).result before).1.toOption.isSome) :
    FinishedRun where
  options
  blocks
  ctx
  before
  outcome := Option.get _ returns
  after := ((Interpreter.run options blocks ctx).result before).2
  ran := Prod.ext (Except.of_toOption (Option.some_get returns).symm) rfl

/-- A venue that pays a tenth less than it quotes. -/
def lossyWorld : World Int :=
  { settings := .standard
    venues := [(.serum, .scripted
      { kind := .serum, rates := [("pool:token", 1, 1)], haircutBps := 1000 })] }

/-- A sale of 100. -/
def lossySale : List Block :=
  [{ id := "sell", type := .action, actionType := some .swap,
     parameters := { venue := some .serum, pool := some "pool", token := some "token",
                     amount := some 100, slippageBps := some 1000 } }]

/-- Where a loss of 5 is allowed. -/
def lossyContext (metrics : Metrics Int) : Context Int :=
  { oracle := { now := 0 }, risk := { maxTradeSize := 100, dailyLossLimit := 5 }, metrics,
    now := 0 }

/-- The totals after the sale. -/
def lossyMetrics : Metrics Int :=
  { totalProfitLoss := -10, lossCount := 1, largestProfit := 0, largestLoss := 10 }

set_option maxRecDepth 10000 in
theorem lossySale_returns :
    ((Interpreter.run ⟨⟨0, 0⟩, 0⟩ lossySale (lossyContext .none)).result
      lossyWorld).1.toOption.isSome := by
  decide +kernel

set_option maxRecDepth 10000 in
theorem lossySale_refused :
    ((Interpreter.run ⟨⟨0, 0⟩, 0⟩ lossySale (lossyContext lossyMetrics)).result
      lossyWorld).1.toOption.isSome := by
  decide +kernel

/-- The sale loses 10, and the next one is not made any more. -/
def lossyRuns : List FinishedRun :=
  [.take _ _ _ _ lossySale_returns, .take _ _ _ _ lossySale_refused]

set_option maxRecDepth 10000 in
theorem settled_lossyRuns : Settled (lossyContext .none).risk .none lossyRuns lossyMetrics :=
  .cons rfl rfl (w := lossyWorld) (Prod.ext (Except.of_toOption (by decide +kernel)) rfl)
    (.cons rfl rfl (w := lossyWorld) (Prod.ext (Except.of_toOption (by decide +kernel)) rfl)
      (.nil _))

set_option maxRecDepth 10000 in
theorem Settled.lossyRuns_stop :
    (FinishedRun.trades lossyRuns).map (·.profitLoss) = [-10] ∧
      ∀ run ∈ lossyRuns.tail, run.outcome.state.executedBlockIds = [] ∧
        run.after.venues = run.before.venues := by
  refine ⟨by decide +kernel, ?_⟩
  intro run member
  cases List.mem_singleton.mp member
  have breached : (Metrics.none : Metrics Int).totalProfitLoss +
      profitOf (FinishedRun.trades (lossyRuns.take 1)) <
        -(lossyContext .none).risk.dailyLossLimit := by
    decide +kernel
  exact (settled_lossyRuns.limits_kept.2 (lossyRuns.take 1) _ [] _ rfl (List.prefix_refl _)
    breached).2

end TradingEngine
