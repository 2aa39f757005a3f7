import TradingEngine.Proofs.Decoded
import TradingEngine.Proofs.Strategy.Ledger
import TradingEngine.Proofs.Strategy.Verdict
import TradingEngine.Proofs.Venue.SwapContract
import TradingEngine.Record.Block

/-! # No profit on paper

A run measures the profit of a swap by the quote that it took just before. A paper venue pays its
quote, and between the two nothing touches its pool, so that on paper venues no trade makes a profit
or a loss, through whatever loops the run goes. All that reads the profit of a run finds none: an
exit for its loss never ends it, its limit on losses stays where the caller's totals put it, and to
settle it adds to the count of losses only.
-/

namespace TradingEngine

open Engine Quantity

/-! ### Blocks as they are read -/

open Decoded

/-- A block with no negative bound on the loss of a run. -/
def Block.LossBounded (b : Block) : Prop := ∀ n ∈ b.parameters.maxLoss, 0 ≤ n

instance (b : Block) : Decidable b.LossBounded :=
  inferInstanceAs (Decidable (∀ n ∈ b.parameters.maxLoss, 0 ≤ n))

theorem BlockParameters.decode_maxLoss (origin : Origin) (j : Json) :
    Gives (fun c => ∀ n ∈ c.maxLoss, 0 ≤ n) (decode origin j) := by
  refine Decoder.object_gives (fun fields => Decoder.closed_gives ?_) j
  refine gives_seq ?_ (Decoder.optionalField_gives fields "max_loss" (Decoder.atLeast_gives 0))
  repeat refine gives_seq_any ?_
  refine gives_map (Q := fun _ => True) (fun _ _ => ?_) fun _ _ => trivial
  intros
  rename_i bounded n given
  exact bounded n given

/-- Every block that is read has none. -/
theorem Block.decode_lossBounded (origin : Origin) (j : Json) :
    Gives LossBounded (decode origin j) := by
  refine Decoder.object_gives (fun fields => ?_) j
  refine gives_seq (Q := fun c => ∀ n ∈ c.maxLoss, 0 ≤ n) ?_ ?_
  · repeat refine gives_seq_any ?_
    refine gives_map (Q := fun _ => True) (fun _ _ => ?_) fun _ _ => trivial
    intros
    assumption
  · unfold Decoder.defaulted Decoder.defaultedBy
    cases Json.lookup "config" fields with
    | some config => exact (BlockParameters.decode_maxLoss origin config).below _
    | none =>
        intro c read
        cases read
        intro n absent
        cases absent

/-! ### What a run keeps -/

namespace Trade

variable {kind : VenueKind} {name token : Name} {w after : World Int} {amount quoted : Int}

theorem world_of_quote {r : Except Fault Int}
    (ended : (quote kind name token amount).result w = (r, after)) : after = w := by
  rw [quote, result_bind, Registry.result_find] at ended
  cases here : Table.get? kind w.venues with
  | none =>
      rw [here] at ended
      exact (congrArg Prod.snd ended).symm
  | some venue =>
      rw [here] at ended
      cases venue <;>
        · dsimp only at ended
          rw [result_ofExcept] at ended
          exact (congrArg Prod.snd ended).symm

/-- A paper venue fills what it has just quoted. -/
theorem paid_as_quoted {minimumOut : Option Int} {slippage : Int} {fill : Fill}
    (paper : w.AllPaper) (priced : (quote kind name token amount).result w = (.ok quoted, w))
    (filled : (swap kind name token amount minimumOut slippage).result w = (.ok fill, after)) :
    fill.amountOut = quoted := by
  obtain ⟨v, here, _⟩ := Registry.of_find_ok paper filled
  obtain ⟨key, p, out, named, held, sold, rfl, _⟩ := of_paper_filled here filled
  rw [result_quote_of_pool? named held, Pool.of_sale_ok sold] at priced
  cases priced
  rfl

end Trade

/-- Every venue is a paper venue, and no trade has made a profit or a loss. -/
structure Machine.Flat (m : Machine Int) : Prop where
  paper : m.world.AllPaper
  trades : ∀ t ∈ m.state.trades, t.profitLoss = 0

theorem Machine.Flat.booked {m after : Machine Int} (flat : m.Flat) (h : m.Booked after) :
    after.Flat := by
  refine ⟨flat.paper.of_venues h.world.venues, ?_⟩
  rw [h.trades]
  exact flat.trades

namespace Run

variable {α : Type} {ctx : Context Int}

/-- A step that keeps a run without profit or loss, also where it stops the run. -/
abbrev KeepsFlat (step : Run Int α) : Prop :=
  Ensures Machine.Flat step (fun _ => Machine.Flat) fun _ => Machine.Flat

theorem Within.keepsFlat {step : Run Int α} (h : Within Machine.Booked step) : KeepsFlat step :=
  h.ensures (fun _ _ booked flat => flat.booked booked) fun _ _ _ _ booked flat =>
    flat.booked booked

theorem keepsFlat_trade {op : Engine Int α}
    (kept : ∀ w : World Int, w.AllPaper → (op.result w).2.AllPaper) : KeepsFlat (ofEngine op) := by
  have still {m : Machine Int} {r : Except Fault α} {world : World Int} (flat : m.Flat)
      (ended : op.result m.world = (r, world)) : Machine.Flat { m with world } := by
    have paper := kept m.world flat.paper
    rw [ended] at paper
    exact ⟨paper, flat.trades⟩
  exact ensures_ofEngine (fun _ _ _ flat ended => still flat ended) fun _ _ _ flat ended =>
    still flat ended

theorem record_keepsFlat (block : Text) {t : ExecutedTrade} (none : t.profitLoss = 0) :
    KeepsFlat (record block t) := by
  refine ensures_bind (Q := fun _ => Machine.Flat) (ensures_update fun m flat => ?_) fun _ => ?_
  · refine ⟨flat.paper, fun trade member => ?_⟩
    rcases List.mem_append.mp member with earlier | last
    · exact flat.trades trade earlier
    · rw [List.mem_singleton.mp last]
      exact none
  · exact (within_bind (log_booked _ _ _) fun _ =>
      (within_ofEngine (count_noted _)).booked).keepsFlat

/-- The venue stands as it was quoted when the swap reaches it. -/
theorem swap_keepsFlat (block : Text) (venue : VenueKind) (pool token : Text)
    (amount slippage : Int) (minimumOut : Option Int) :
    KeepsFlat (swap ctx block venue pool token amount slippage minimumOut) := by
  refine ensures_bind (preflight_quiet _ _ _).booked.keepsFlat fun _ => ?_
  refine ensures_bind (within_ofEngine (Registry.require_noted _)).booked.keepsFlat fun _ => ?_
  refine ensures_bind (within_ofEngine within_settings).booked.keepsFlat fun _ => ?_
  refine ensures_bind (within_ofExcept _).booked.keepsFlat fun allowed => ?_
  let priced (quoted : Int) (m : Machine Int) : Prop :=
    (Trade.quote venue (.text pool) (.text token) amount).result m.world = (.ok quoted, m.world) ∧
      m.Flat
  refine ensures_bind (Q := priced) (ensures_ofEngine ?_ ?_) fun quoted => ?_
  · intro quoted m after flat ended
    cases Trade.world_of_quote ended
    exact ⟨ended, flat⟩
  · intro f m after flat ended
    cases Trade.world_of_quote ended
    exact flat
  have fromMinimum (least : Int) : Ensures (priced quoted)
      (swapFor ctx block venue pool token amount allowed quoted least) (fun _ => Machine.Flat)
      fun _ => Machine.Flat := by
    have traded := keepsFlat_trade fun w paper =>
      Trade.swap_paper paper venue (.text pool) (.text token) amount (some least) allowed
    refine ensures_bind (Q := fun fill m => fill.amountOut = quoted ∧ m.Flat) ?_ fun fill =>
      ensures_fact fun paid => record_keepsFlat block (Int.sub_eq_zero.mpr paid)
    refine ⟨fun held ended => ⟨?_, traded.done held.2 ended⟩, fun held ended =>
      traded.stopped held.2 ended⟩
    exact Trade.paid_as_quoted held.2.paper held.1 (of_ofEngine_ok ended).1
  cases minimumOut with
  | some least => exact fromMinimum least
  | none =>
      refine ensures_bind (Q := fun _ => priced quoted) ?_ fromMinimum
      exact ensures_ofExcept (fun _ _ held _ => held) fun _ _ held _ => held.2

theorem deposit_keepsFlat (block : Text) (venue : VenueKind) (pool : Text) (amount : Int)
    (amountB : Option Int) : KeepsFlat (deposit ctx block venue pool amount amountB) := by
  refine ensures_bind (preflight_quiet _ _ _).booked.keepsFlat fun _ => ?_
  refine ensures_bind (within_ofEngine (Registry.require_noted _)).booked.keepsFlat fun _ => ?_
  refine ensures_bind (keepsFlat_trade fun w paper => Trade.deposit_paper paper _ _ _ _)
    fun minted => ?_
  exact record_keepsFlat block rfl

theorem withdraw_keepsFlat (block : Text) (venue : VenueKind) (pool : Text) (amount : Int) :
    KeepsFlat (withdraw ctx block venue pool amount) := by
  refine ensures_bind (preflight_quiet _ _ _).booked.keepsFlat fun _ => ?_
  refine ensures_bind (within_ofEngine (Registry.require_noted _)).booked.keepsFlat fun _ => ?_
  refine ensures_bind (keepsFlat_trade fun w paper => Trade.withdraw_paper paper _ _ _)
    fun outs => ?_
  exact record_keepsFlat block rfl

theorem perform_keepsFlat (options : RunOptions Int) (block : Text) (operation : Operation) :
    KeepsFlat (perform options ctx block operation) := by
  cases operation with
  | swap venue pool token amount slippage minimumOut => exact swap_keepsFlat _ _ _ _ _ _ _
  | deposit venue pool amount amountB => exact deposit_keepsFlat _ _ _ _ _
  | withdraw venue pool amount => exact withdraw_keepsFlat _ _ _ _
  | price | volume | time | balance | priceImpact | custom | loop | exitAfter | exitOnLoss
  | exitCustom =>
      exact (perform_quiet _ _ _ _ fun active => by cases active).booked.keepsFlat

end Run

namespace Interpreter

variable {options : RunOptions Int} {blocks : List Block} {ctx : Context Int} {w after : World Int}
  {outcome : RunReport}

theorem steps_keepsFlat (options : RunOptions Int) (blocks : List Block) (ctx : Context Int)
    (maxIterations : Int) : Run.KeepsFlat (steps options blocks ctx maxIterations) := by
  refine ensures_steps (fun _ _ flat _ => flat) fun program _ i _ => ?_
  refine ⟨fun _ => ?_, fun _ => (Run.announce_booked i).keepsFlat, fun _ _ _ _ =>
    (Run.startIteration_booked i.id).keepsFlat.strengthen fun _ held => held.1⟩
  exact Run.ensures_bind (Run.announce_booked i).keepsFlat fun _ =>
    Run.perform_keepsFlat options i.id i.operation

theorem trades_flat (paper : w.AllPaper)
    (ran : (run options blocks ctx).result w = (.ok outcome, after)) :
    ∀ t ∈ outcome.state.trades, t.profitLoss = 0 := by
  obtain ⟨ended, machine, taken, reported⟩ := of_run ran
  have steps := steps_keepsFlat options blocks ctx w.settings.maxLoopIterations
  have begins : Machine.Flat ⟨w, {}⟩ := ⟨paper, fun t none => nomatch none⟩
  have flat : machine.Flat := by
    cases ended with
    | ok _ => exact steps.done begins taken
    | error stop => exact steps.stopped begins taken
  rw [state_of_report_ok reported]
  exact flat.trades

/-- Only a list whose blocks can be told apart comes to an exit. -/
theorem ids_nodup_of_exited (ran : (run options blocks ctx).result w = (.ok outcome, after))
    (exited : outcome.status = .exited) : (blocks.map (·.id)).Nodup := by
  obtain ⟨ended, machine, taken, reported⟩ := of_run ran
  rw [steps, Run.result_bind, Run.result_ofExcept] at taken
  cases read : Program.ofBlocks w.settings.maxLoopIterations blocks with
  | ok program => exact (Program.wellformed_of_ofBlocks read).distinct
  | error f =>
      rw [read] at taken
      cases taken
      cases f with
      | failure e =>
          obtain ⟨_, _, _, reported⟩ := of_bind_ok reported
          cases of_conclude_ok reported
          cases exited
      | refused | breakdown => cases reported

end Interpreter

/-! ### What reads the profit of a run -/

namespace Run

variable {ctx : Context Int} {s : RunState} {size : Int}

/-- The limit on losses stands in the way of every action of a run in this state. -/
def LossLimited (ctx : Context Int) (s : RunState) : Prop :=
  ctx.metrics.totalProfitLoss + s.cumulativeProfitLoss < -ctx.risk.dailyLossLimit

/-- The gate has two halves, one for the size of an action and one for the losses before it. -/
theorem turnedDown_iff :
    TurnedDown ctx s size ↔ ctx.risk.maxTradeSize < size ∨ LossLimited ctx s := by
  constructor
  · rintro ⟨total, limit, sum, broken⟩
    cases sum
    rw [RiskLimits.broken?_int] at broken
    split at broken
    · exact .inl ‹_›
    · split at broken
      · exact .inr ‹_›
      · cases broken
  · intro h
    by_cases large : ctx.risk.maxTradeSize < size
    · refine ⟨_, .maxTradeSize, rfl, ?_⟩
      rw [RiskLimits.broken?_int]
      exact congrArg Except.ok (if_pos large)
    · refine ⟨_, .dailyLoss, rfl, ?_⟩
      rw [RiskLimits.broken?_int]
      exact congrArg Except.ok ((if_neg large).trans (if_pos (h.resolve_left large)))

theorem lossLimited_iff (none : s.cumulativeProfitLoss = 0) :
    LossLimited ctx s ↔ ctx.metrics.totalProfitLoss < -ctx.risk.dailyLossLimit := by
  rw [LossLimited, none, Int.add_zero]

end Run

namespace Metrics

/-- So many more losses have been counted, and nothing was lost. -/
structure CountsLosses (n : Nat) (m settled : Metrics Int) : Prop where
  total : settled.totalProfitLoss = m.totalProfitLoss
  wins : settled.winCount = m.winCount
  losses : settled.lossCount = m.lossCount + n

variable {m settled : Metrics Int} {w after : World Int}

theorem CountsLosses.trans {k n : Nat} {between : Metrics Int} (h : CountsLosses k m between)
    (later : CountsLosses n between settled) : CountsLosses (n + k) m settled := by
  refine ⟨later.total.trans h.total, later.wins.trans h.wins, ?_⟩
  have first := h.losses
  have second := later.losses
  omega

theorem CountsLosses.totalTrades {n : Nat} (h : CountsLosses n m settled) :
    settled.totalTrades = m.totalTrades + n := by
  unfold Metrics.totalTrades
  rw [h.wins, h.losses, Int.add_assoc]

/-- A trade without profit is a loss of nothing. -/
theorem add_nothing (m : Metrics Int) :
    ∃ updated, m.add 0 = .ok updated ∧ CountsLosses 1 m updated :=
  ⟨_, rfl, Int.add_zero _, rfl, rfl⟩

theorem of_record_nothing (h : (m.record 0).result w = (.ok settled, after)) :
    CountsLosses 1 m settled := by
  obtain ⟨updated, made, counts⟩ := m.add_nothing
  obtain ⟨_, _, sum, h⟩ := of_bind_ok h
  obtain ⟨_, _, _, h⟩ := of_bind_ok h
  cases h
  rw [made, result_ofExcept] at sum
  cases sum
  exact counts

theorem of_recordAll_nothing {n : Nat}
    (h : (m.recordAll (List.replicate n 0)).result w = (.ok settled, after)) :
    CountsLosses n m settled := by
  induction n generalizing m w with
  | zero =>
      cases h
      exact ⟨rfl, rfl, (Int.add_zero _).symm⟩
  | succ n ih =>
      rw [List.replicate_succ] at h
      obtain ⟨between, _, first, later⟩ := of_bind_ok h
      exact (of_record_nothing first).trans (ih later)

/-- It can be journalled wherever the bound fields, the total and the counts can be written. -/
theorem recordAll_nothing_returns {n : Nat} (bound : Json.fieldsWritable w.journal.bound = true)
    (total : Numeral.isWritable m.totalProfitLoss = true)
    (counts : ∀ k : Nat, k ≤ n → Numeral.isWritable (m.totalTrades + k) = true) :
    ∃ settled after, (m.recordAll (List.replicate n 0)).result w = (.ok settled, after) := by
  induction n generalizing m w with
  | zero => exact ⟨m, w, rfl⟩
  | succ n ih =>
      obtain ⟨updated, made, counted⟩ := m.add_nothing
      have own : Json.fieldsWritable
          [("profit_or_loss", .int 0), ("total_profit_loss", .int updated.totalProfitLoss),
            ("trades", .int updated.totalTrades)] = true := by
        have nothing : Numeral.isWritable 0 = true :=
          Numeral.isWritable_of_u64 (Int.le_refl 0) (by decide)
        have one := counts 1 (Nat.le_add_left 1 n)
        rw [← counted.totalTrades] at one
        rw [← counted.total] at total
        simp only [Json.fieldsWritable, Json.isWritable, nothing, total, one, Bool.and_self]
      obtain ⟨between, logged, noted⟩ := log_ok .info "METRICS_UPDATED" (by decide) bound own
      have first : (m.record 0).result w = (.ok updated, between) := by
        rw [record, result_bind, result_ofExcept, made]
        dsimp only
        rw [result_bind, toJson_int, toJson_int, logged]
        rfl
      obtain ⟨settled, after, rest⟩ := ih (m := updated) (w := between) (noted.bound ▸ bound)
        (counted.total ▸ total) fun k inside => by
          rw [counted.totalTrades, Int.add_assoc, Int.add_comm _ (k : Int)]
          exact counts (k + 1) (Nat.succ_le_succ inside)
      refine ⟨settled, after, ?_⟩
      rw [List.replicate_succ, recordAll, List.foldlM_cons, result_bind, first]
      exact rest

end Metrics

/-- An outcome without profit or loss, and what follows from it for all that reads one. -/
structure RunReport.Profitless (blocks : List Block) (ctx : Context Int) (outcome : RunReport) :
    Prop where
  trades : ∀ t ∈ outcome.state.trades, t.profitLoss = 0
  /-- At any point of the run its trades were the first ones of the outcome. -/
  total : ∀ s : RunState, s.trades <+: outcome.state.trades → s.cumulativeProfitLoss = 0
  exits : ∀ b ∈ blocks, b.type = .exit → b.exitType = some .cumulativeLoss →
    ¬(outcome.status = .exited ∧ outcome.reason = some ("exit:" ++ b.id))
  limit : ∀ s : RunState, s.trades <+: outcome.state.trades →
    (Run.LossLimited ctx s ↔ ctx.metrics.totalProfitLoss < -ctx.risk.dailyLossLimit)
  /-- Below the limit no action is let through. -/
  barred : ctx.metrics.totalProfitLoss < -ctx.risk.dailyLossLimit → outcome.state.trades = []
  /-- Above the limit only the size of an action is turned down. -/
  allowed : -ctx.risk.dailyLossLimit ≤ ctx.metrics.totalProfitLoss →
    outcome.status = .aborted → outcome.error = none →
    ∃ b ∈ blocks, b.type = .action ∧ ∃ amount, b.parameters.amount = some amount ∧
      ctx.risk.maxTradeSize < amount
  settles : ∀ (m settled : Metrics Int) (w after : World Int),
    (outcome.settle m).result w = (.ok settled, after) →
    m.CountsLosses outcome.state.trades.length settled
  /-- The outcome can be settled wherever what is journalled of it can be written. -/
  returns : ∀ (m : Metrics Int) (w : World Int), Json.fieldsWritable w.journal.bound = true →
    Numeral.isWritable m.totalProfitLoss = true →
    (∀ k : Nat, k ≤ outcome.state.trades.length → Numeral.isWritable (m.totalTrades + k) = true) →
    ∃ settled after, (outcome.settle m).result w = (.ok settled, after)

theorem Text.append_left_cancel {start a b : Text} (h : start ++ a = start ++ b) : a = b := by
  obtain ⟨first⟩ := a
  obtain ⟨second⟩ := b
  exact congrArg Text.mk (List.append_cancel_left (Text.mk.inj h))

/-- No loss exceeds a bound that is not negative where there is none. -/
theorem Block.not_exitHolds {ctx : Context Int} {venues : Registry Int} {s : RunState} {b : Block}
    (bounded : b.LossBounded) (type : b.exitType = some .cumulativeLoss)
    (none : s.cumulativeProfitLoss = 0) : ¬b.ExitHolds ctx venues s := by
  intro holds
  simp only [ExitHolds, type, none] at holds
  obtain ⟨n, set, less⟩ := holds
  have nonneg := bounded n set
  omega

theorem RunReport.settle_flat {outcome : RunReport}
    (flat : ∀ t ∈ outcome.state.trades, t.profitLoss = 0) (m : Metrics Int) :
    outcome.settle m = m.recordAll (List.replicate outcome.state.trades.length 0) := by
  refine congrArg m.recordAll (List.eq_replicate_iff.mpr ⟨List.length_map _, ?_⟩)
  intro n member
  obtain ⟨t, traded, rfl⟩ := List.mem_map.mp member
  exact flat t traded

namespace Interpreter

variable {options : RunOptions Int} {blocks : List Block} {ctx : Context Int} {w after : World Int}
  {outcome : RunReport}

theorem exit_unfired (paper : w.AllPaper) (bounded : ∀ b ∈ blocks, b.LossBounded)
    (ran : (run options blocks ctx).result w = (.ok outcome, after)) {b : Block}
    (member : b ∈ blocks) (type : b.exitType = some .cumulativeLoss) :
    ¬(outcome.status = .exited ∧ outcome.reason = some ("exit:" ++ b.id)) := by
  rintro ⟨exited, reason⟩
  have flat := trades_flat paper ran
  have distinct := ids_nodup_of_exited ran exited
  have justified := justified_of_run ran
  clear ran
  cases justified with
  | completed | turnedDown | failed => cases exited
  | exited s other among _ holds =>
      have same := Text.append_left_cancel (Option.some.inj reason)
      obtain rfl : other = b := by
        have found := Block.find?_of_mem distinct among
        rw [same, Block.find?_of_mem distinct member] at found
        exact (Option.some.inj found).symm
      exact Block.not_exitHolds (bounded other member) type
        (RunState.cumulativeProfitLoss_of_flat flat) holds

theorem turnedDown_by_size (paper : w.AllPaper)
    (ran : (run options blocks ctx).result w = (.ok outcome, after))
    (above : -ctx.risk.dailyLossLimit ≤ ctx.metrics.totalProfitLoss)
    (aborted : outcome.status = .aborted) (faultless : outcome.error = none) :
    ∃ b ∈ blocks, b.type = .action ∧ ∃ amount, b.parameters.amount = some amount ∧
      ctx.risk.maxTradeSize < amount := by
  have flat := trades_flat paper ran
  have justified := justified_of_run ran
  clear ran
  cases justified with
  | completed | exited => cases aborted
  | failed => cases faultless
  | turnedDown s b amount member active set refused =>
      rcases Run.turnedDown_iff.mp refused with large | late
      · exact ⟨b, member, active, amount, set, large⟩
      · rw [Run.lossLimited_iff (RunState.cumulativeProfitLoss_of_flat flat)] at late
        omega

/-- Whatever block list is run on paper venues, its outcome shows no profit and no loss. -/
theorem paper_profitless (paper : w.AllPaper) (bounded : ∀ b ∈ blocks, b.LossBounded)
    (ran : (run options blocks ctx).result w = (.ok outcome, after)) :
    outcome.Profitless blocks ctx := by
  have flat := trades_flat paper ran
  have total (s : RunState) (made : s.trades <+: outcome.state.trades) :
      s.cumulativeProfitLoss = 0 :=
    RunState.cumulativeProfitLoss_of_flat fun t member => flat t (made.subset member)
  have gated := (FinishedRun.gated ⟨options, blocks, ctx, w, outcome, after, ran⟩).1
  exact {
    trades := flat
    total := total
    exits := fun b member _ type => exit_unfired paper bounded ran member type
    limit := fun s made => Run.lossLimited_iff (total s made)
    barred := gated.eq_nil_of_breached
    allowed := turnedDown_by_size paper ran
    settles := fun m settled w after settling => by
      rw [RunReport.settle_flat flat] at settling
      exact Metrics.of_recordAll_nothing settling
    returns := fun m w bound total counts => by
      rw [RunReport.settle_flat flat]
      exact Metrics.recordAll_nothing_returns bound total counts }

/-- The blocks of the market, with a stop at the first loss behind the sale. -/
def stoppedBlocks : List Block :=
  marketBlocks.insertIdx 1 { id := "stop", type := .exit, exitType := some .cumulativeLoss,
                             parameters := { maxLoss := some 0 } }

set_option maxRecDepth 10000 in
theorem stoppedBlocks_returns :
    ((run ⟨⟨0, 0⟩, 0⟩ stoppedBlocks marketContext).result marketWorld).1.toOption.isSome := by
  decide +kernel

set_option maxRecDepth 10000 in
/-- The stop is passed twice before the run leaves. -/
theorem stoppedBlocks_profitless :
    ∃ outcome after, (run ⟨⟨0, 0⟩, 0⟩ stoppedBlocks marketContext).result marketWorld =
        (.ok outcome, after) ∧
      outcome.state.trades.map (·.source) = (["sell", "withdraw", "sell"] : List Text) ∧
      outcome.Profitless stoppedBlocks marketContext := by
  let taken := FinishedRun.take _ _ _ _ stoppedBlocks_returns
  have sold : taken.outcome.state.trades.map (·.source) =
      (["sell", "withdraw", "sell"] : List Text) := by
    decide +kernel
  exact ⟨taken.outcome, taken.after, taken.ran, sold,
    paper_profitless marketWorld_allPaper (by decide) taken.ran⟩

end Interpreter

end TradingEngine
