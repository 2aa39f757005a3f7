import TradingEngine.Proofs.Frame

/-! # What one block can do

A block that is no action records nothing: it may note the price that it saw, and the venues stay as
they are. An action first passes the risk gate and then trades, and it is recorded last; until then
it leaves the record of the run alone. So there are three ways in which an action can end, and
`Attempt` lists them. Nothing but the end of the program completes a run.
-/

namespace TradingEngine

open Engine Quantity

variable {ν α β : Type}

/-- A stop before the end of the program; it may have any status but that of a completed run. -/
def Stop.Early : Stop → Prop
  | .finished status _ => status ≠ .completed
  | .fault _ => True

/-- Nothing was recorded between two machines, though there may have been some trading. -/
structure Machine.Idle (m after : Machine ν) : Prop where
  world : m.world.Traded after.world
  executed : after.state.executedBlockIds = m.state.executedBlockIds
  counters : after.state.loopCounters = m.state.loopCounters
  trades : after.state.trades = m.state.trades

/-- Nothing was recorded between two machines, and no venue changed. -/
structure Machine.Quiet (m after : Machine ν) : Prop extends Machine.Idle m after where
  venues : after.world.venues = m.world.venues

instance : Frame (Machine.Idle (ν := ν)) where
  refl _ := ⟨Frame.refl _, rfl, rfl, rfl⟩
  trans h k := ⟨Frame.trans h.world k.world, k.executed.trans h.executed,
    k.counters.trans h.counters, k.trades.trans h.trades⟩

instance : Frame (Machine.Quiet (ν := ν)) where
  refl _ := ⟨Frame.refl _, rfl⟩
  trans h k := ⟨Frame.trans h.toIdle k.toIdle, k.venues.trans h.venues⟩

namespace Run

/-- Whatever the machine before a step, the machine after it is in this relation to it, and if the
    step stops, it stops early. -/
structure Within (R : Machine ν → Machine ν → Prop) (step : Run ν α) : Prop where
  relates (m : Machine ν) : R m (step.result m).2
  early (m : Machine ν) (stop : Stop) : (step.result m).1 = .error stop → stop.Early

section

variable {R : Machine ν → Machine ν → Prop} [Frame R]

theorem within_pure (a : α) : Within R (pure a : Run ν α) where
  relates m := Frame.refl m
  early _ _ h := by cases h

theorem within_bind {step : Run ν α} {next : α → Run ν β} (first : Within R step)
    (rest : ∀ a, Within R (next a)) : Within R (step >>= next) := by
  have outcome (m : Machine ν) : R m ((step >>= next).result m).2 ∧
      ∀ stop, ((step >>= next).result m).1 = .error stop → stop.Early := by
    rw [result_bind]
    have h := first.relates m
    have early := first.early m
    cases ended : step.result m with
    | mk r after =>
        rw [ended] at h early
        cases r with
        | ok a => exact ⟨Frame.trans h ((rest a).relates after), (rest a).early after⟩
        | error stop =>
            refine ⟨h, fun _ k => ?_⟩
            cases k
            exact early stop rfl
  exact ⟨fun m => (outcome m).1, fun m => (outcome m).2⟩

end

theorem Within.idle {step : Run ν α} (h : Within Machine.Quiet step) :
    Within Machine.Idle step :=
  ⟨fun m => (h.relates m).toIdle, h.early⟩

/-- An operation of the engine stops a run by a fault only. -/
theorem early_ofEngine (op : Engine ν α) (m : Machine ν) (stop : Stop)
    (h : ((ofEngine op).result m).1 = .error stop) : stop.Early := by
  rw [result_ofEngine] at h
  cases ended : (op.result m.world).1 with
  | ok a =>
      rw [ended] at h
      cases h
  | error f =>
      rw [ended] at h
      cases h
      trivial

theorem within_ofEngine {op : Engine ν α} (h : Engine.Within World.Noted op) :
    Within Machine.Quiet (ofEngine op) where
  relates m := ⟨⟨(h m.world).toTraded, rfl, rfl, rfl⟩, (h m.world).venues⟩
  early := early_ofEngine op

theorem within_trade {op : Engine ν α} (h : Engine.Within World.Traded op) :
    Within Machine.Idle (ofEngine op) where
  relates m := ⟨h m.world, rfl, rfl, rfl⟩
  early := early_ofEngine op

theorem within_ofExcept (r : Except Fault α) : Within Machine.Quiet (ofExcept r : Run ν α) :=
  within_ofEngine (Engine.within_ofExcept r)

theorem within_fail (cause : Cause) : Within Machine.Quiet (fail cause : Run ν α) :=
  within_ofEngine (Engine.within_fail cause)

theorem within_log (level : Level) (event : Text) (fields : Fields)
    (other : event ≠ Entry.dispatchEvent) :
    Within Machine.Quiet (log level event fields : Run ν Unit) :=
  within_ofEngine (log_noted level event fields other)

theorem within_finish (status : RunStatus) (reason : Text) (early : status ≠ .completed) :
    Within Machine.Quiet (finish status reason : Run ν α) where
  relates m := Frame.refl m
  early _ _ h := by
    cases h
    exact early

theorem within_state : Within Machine.Quiet (state : Run ν RunState) where
  relates m := Frame.refl m
  early _ _ h := by cases h

theorem within_recordPrice (feed : Text) (price : Int) :
    Within Machine.Quiet (update (·.recordPrice feed price) : Run ν Unit) where
  relates m := ⟨⟨Frame.refl _, rfl, rfl, rfl⟩, rfl⟩
  early _ _ h := by cases h

/-! ### Blocks that are no actions -/

theorem test_quiet (ctx : Context ν) (name : Text) : Within Machine.Quiet (test ctx name) :=
  within_bind (within_ofExcept _) fun _ => within_bind
    ⟨fun m => Frame.refl m, fun _ _ h => by cases h⟩ fun _ => within_ofExcept _

theorem trigger_quiet (block : Text) (type : TriggerType) (satisfied : Bool) (reading : Reading) :
    Within Machine.Quiet (trigger block type satisfied reading : Run ν Unit) := by
  cases satisfied with
  | false => exact within_bind (within_fail _) fun _ => within_log _ _ _ (by decide)
  | true => exact within_log _ _ _ (by decide)

theorem condition_quiet (block : Text) (type : ConditionType) (satisfied : Bool)
    (reading : Reading) :
    Within Machine.Quiet (condition block type satisfied reading : Run ν Unit) := by
  cases satisfied with
  | false => exact within_bind (within_fail _) fun _ => within_log _ _ _ (by decide)
  | true => exact within_log _ _ _ (by decide)

theorem exit_quiet (block : Text) (type : ExitType) (holds : Bool) :
    Within Machine.Quiet (exit block type holds : Run ν Unit) := by
  cases holds with
  | false => exact within_pure ()
  | true =>
      exact within_bind (within_log _ _ _ (by decide)) fun _ => within_finish _ _ (by decide)

variable [Quantity ν]

theorem readPrice_quiet (options : RunOptions ν) (ctx : Context ν) (feed : Text)
    (twapPeriod : Option Int) :
    Within Machine.Quiet (readPrice options ctx feed twapPeriod) := by
  refine within_bind (within_ofExcept _) fun quote =>
    within_bind (within_ofEngine (PriceQuote.validate_noted _ _ _ _ _)) fun spot => ?_
  cases twapPeriod with
  | none => exact within_pure _
  | some seconds => exact within_bind (within_ofExcept _) fun _ => within_ofExcept _

theorem readImpact_quiet (ctx : Context ν) (pool token : Text) (amount : Int) :
    Within Machine.Quiet (readImpact ctx pool token amount) := by
  unfold readImpact
  cases Table.get? pool ctx.pools with
  | none => exact within_fail _
  | some source =>
      exact within_bind (within_ofEngine (PoolSource.reserves_noted _ _)) fun _ =>
        within_bind (within_ofExcept _) fun _ => within_bind (within_ofExcept _) fun _ =>
          within_ofExcept _

/-- A block that is no action records nothing and leaves the venues alone. -/
theorem perform_quiet (options : RunOptions ν) (ctx : Context ν) (block : Text)
    (operation : Operation) (passive : operation.type ≠ .action) :
    Within Machine.Quiet (perform options ctx block operation) := by
  cases operation with
  | price feed comparison threshold twapPeriod =>
      exact within_bind (readPrice_quiet _ _ _ _) fun _ =>
        within_bind (within_recordPrice _ _) fun _ => within_bind (within_ofExcept _) fun _ =>
          trigger_quiet _ _ _ _
  | volume feed threshold =>
      simp only [perform]
      cases Table.get? feed ctx.volumes with
      | none => exact within_fail _
      | some volume => exact trigger_quiet _ _ _ _
  | time notBefore notAfter => exact trigger_quiet _ _ _ _
  | balance token minimum => exact condition_quiet _ _ _ _
  | priceImpact pool token amount maximumBps =>
      exact within_bind (readImpact_quiet _ _ _ _) fun _ => within_bind (within_ofExcept _)
        fun _ => condition_quiet _ _ _ _
  | custom predicate => exact within_bind (test_quiet _ _) fun _ => condition_quiet _ _ _ _
  | swap | deposit | withdraw => exact absurd rfl passive
  | loop => exact within_pure ()
  | exitAfter blocks => exact within_bind within_state fun _ => exit_quiet _ _ _
  | exitOnLoss maxLoss => exact within_bind within_state fun _ => exit_quiet _ _ _
  | exitCustom predicate => exact within_bind (test_quiet _ _) fun _ => exit_quiet _ _ _

/-! ### Actions -/

/-- The risk gate has let an action of this size through: neither limit is broken by the caller's
    totals and what the run had realised by then. -/
def Allowed (ctx : Context ν) (s : RunState) (size : Int) : Prop :=
  ∃ total, add ctx.metrics.totalProfitLoss (ofInt s.cumulativeProfitLoss) = .ok total ∧
    ctx.risk.broken? { ctx.metrics with totalProfitLoss := total } (ofInt size) = .ok none

/-- An action of a block was recorded as this trade. -/
structure Recorded (block : Text) (trade : ExecutedTrade) (m after : Machine ν) : Prop where
  world : m.world.Traded after.world
  executed : after.state.executedBlockIds = m.state.executedBlockIds ++ [block]
  counters : after.state.loopCounters = m.state.loopCounters
  trades : after.state.trades = m.state.trades ++ [trade]

/-- The trade that an action of this size is reported as. -/
def Reports (ν : Type) [Quantity ν] (block : Text) (size : Int) (trade : ExecutedTrade) : Prop :=
  ∃ (venue : VenueKind) (pool token : Text) (amountOut gain : ν) (now : Int),
    ExecutedTrade.ofQuantities block venue pool token (ofInt size) amountOut gain now = .ok trade

/-- How an action of this size can end on a machine. Only the last way goes on with the program, and
    a fault may still follow it. -/
inductive Attempt (ctx : Context ν) (block : Text) (size : Int) (m : Machine ν) :
    Except Stop Unit × Machine ν → Prop
  /-- It was stopped before any venue was called. -/
  | refused (stop : Stop) (after : Machine ν) :
      stop.Early → m.Quiet after → Attempt ctx block size m (.error stop, after)
  /-- It was let through and broke off on the way. -/
  | abandoned (stop : Stop) (after : Machine ν) :
      stop.Early → Allowed ctx m.state size → m.Idle after →
        Attempt ctx block size m (.error stop, after)
  /-- It was let through and recorded. -/
  | recorded (ended : Except Stop Unit) (after : Machine ν) (trade : ExecutedTrade) :
      (∀ stop, ended = .error stop → stop.Early) → Allowed ctx m.state size →
        Reports ν block size trade → Recorded block trade m after →
          Attempt ctx block size m (ended, after)

/-- What is left to do of an action that was let through on `m`. -/
def Completes (ctx : Context ν) (block : Text) (size : Int) (m : Machine ν)
    (rest : Run ν Unit) : Prop :=
  ∀ now, m.Idle now → Attempt ctx block size m (rest.result now)

section

variable {ctx : Context ν} {block : Text} {size : Int} {m : Machine ν}

theorem completes_bind (allowed : Allowed ctx m.state size) {step : Run ν α}
    {next : α → Run ν Unit} (first : Within Machine.Idle step)
    (rest : ∀ a, Completes ctx block size m (next a)) :
    Completes ctx block size m (step >>= next) := by
  intro now idle
  have reached := Frame.trans idle (first.relates now)
  have early := first.early now
  rw [result_bind]
  cases ended : step.result now with
  | mk r after =>
      rw [ended] at reached early
      cases r with
      | ok a => exact rest a after reached
      | error stop => exact .abandoned stop after (early stop rfl) allowed reached

/-- The last link of an action: its trade is put together and recorded. -/
theorem completes_record (allowed : Allowed ctx m.state size) (made : Except Fault ExecutedTrade)
    (reports : ∀ trade, made = .ok trade → Reports ν block size trade) :
    Completes ctx block size m (ofExcept made >>= record block) := by
  intro now idle
  rw [result_bind, result_ofExcept]
  cases made with
  | error f => exact .abandoned _ _ trivial allowed idle
  | ok trade =>
      let noted : Run ν Unit := do
        log .info "ACTION_RECORDED"
          [("block_id", .text block), ("venue", .text trade.venue.name),
            ("amount_in", .int trade.amountIn), ("amount_out", .int trade.amountOut)]
        ofEngine (Engine.count (.tradesExecuted .blocks))
      have quiet : Within Machine.Quiet noted :=
        within_bind (within_log _ _ _ (by decide)) fun _ => within_ofEngine (count_noted _)
      let kept : Machine ν := { now with state := now.state.recordAction block trade }
      have after := quiet.relates kept
      refine .recorded (noted.result kept).1 (noted.result kept).2 trade (quiet.early kept)
        allowed (reports trade rfl) ⟨Frame.trans idle.world after.world, ?_, ?_, ?_⟩
      · rw [after.executed, ← idle.executed]
        rfl
      · exact after.counters.trans idle.counters
      · rw [after.trades, ← idle.trades]
        rfl

end

theorem preflight_quiet (ctx : Context ν) (block : Text) (size : Int) :
    Within Machine.Quiet (preflight ctx block size) := by
  refine within_bind (within_ofEngine HaltSwitch.check_noted) fun _ =>
    within_bind within_state fun s => within_bind (within_ofExcept _) fun total =>
      within_bind (within_ofEngine (RiskLimits.allow_noted _ _ _)) fun allowed => ?_
  cases allowed with
  | true => exact within_pure ()
  | false =>
      exact within_bind (within_log _ _ _ (by decide)) fun _ => within_finish _ _ (by decide)

theorem preflight_allows {ctx : Context ν} {block : Text} {size : Int} {m after : Machine ν}
    (h : (preflight ctx block size).result m = (.ok (), after)) :
    Allowed ctx m.state size := by
  obtain ⟨_, checked, halted, h⟩ := of_bind_ok h
  obtain ⟨s, between, read, h⟩ := of_bind_ok h
  obtain ⟨total, between, sum, h⟩ := of_bind_ok h
  obtain ⟨allowed, judged, gate, h⟩ := of_bind_ok h
  cases read
  obtain ⟨sum, rfl⟩ := of_ofExcept_ok sum
  rw [(of_ofEngine_ok halted).2] at sum
  cases allowed with
  | true => exact ⟨total, sum, (RiskLimits.of_allow_ok (of_ofEngine_ok gate).1).1⟩
  | false =>
      obtain ⟨_, _, _, h⟩ := of_bind_ok h
      cases h

/-- Every action begins with the preflight, and what follows starts on a machine on which nothing
    was recorded since. -/
theorem attempt_of_completes {ctx : Context ν} {block : Text} {size : Int} {m : Machine ν}
    {rest : Run ν Unit}
    (h : Allowed ctx m.state size → Completes ctx block size m rest) :
    Attempt ctx block size m ((preflight ctx block size >>= fun _ => rest).result m) := by
  have quiet := (preflight_quiet ctx block size).relates m
  have early := (preflight_quiet ctx block size).early m
  rw [result_bind]
  cases ended : (preflight ctx block size).result m with
  | mk r after =>
      rw [ended] at quiet early
      cases r with
      | ok _ => exact h (preflight_allows ended) after quiet.toIdle
      | error stop => exact .refused stop after (early stop rfl) quiet

/-- What a swap still does when its least output is known. -/
def swapFor (ctx : Context ν) (block : Text) (venue : VenueKind) (pool token : Text) (amount : Int)
    (slippage quoted least : ν) : Run ν Unit := do
  let fill ← ofEngine
    (Trade.swap venue (.text pool) (.text token) (ofInt amount) (some least) slippage)
  let gain ← ofExcept (sub (ofInt fill.amountOut) quoted)
  let trade ← ofExcept (ExecutedTrade.ofQuantities block venue pool token (ofInt amount)
    (ofInt fill.amountOut) gain ctx.now)
  record block trade

theorem swap_attempt (ctx : Context ν) (block : Text) (venue : VenueKind) (pool token : Text)
    (amount slippageBps : Int) (minimumOut : Option Int) (m : Machine ν) :
    Attempt ctx block amount m
      ((swap ctx block venue pool token amount slippageBps minimumOut).result m) := by
  refine attempt_of_completes fun allowed => ?_
  refine completes_bind allowed (within_ofEngine (Registry.require_noted _)).idle fun _ => ?_
  refine completes_bind allowed (within_ofEngine within_settings).idle fun settings => ?_
  refine completes_bind allowed (within_ofExcept _).idle fun slippage => ?_
  refine completes_bind allowed (within_ofEngine (Trade.quote_noted _ _ _ _)).idle fun quoted => ?_
  have fromMinimum (least : ν) : Completes ctx block amount m
      (swapFor ctx block venue pool token amount slippage quoted least) := by
    refine completes_bind allowed (within_trade (Trade.swap_traded _ _ _ _ _ _)) fun fill => ?_
    refine completes_bind allowed (within_ofExcept _).idle fun gain => ?_
    exact completes_record allowed _ fun trade made =>
      ⟨venue, pool, token, ofInt fill.amountOut, gain, ctx.now, made⟩
  cases minimumOut with
  | some least => exact completes_bind allowed (within_pure _) fromMinimum
  | none => exact completes_bind allowed (within_ofExcept _).idle fromMinimum

theorem deposit_attempt (ctx : Context ν) (block : Text) (venue : VenueKind) (pool : Text)
    (amount : Int) (amountB : Option Int) (m : Machine ν) :
    Attempt ctx block amount m
      ((deposit ctx block venue pool amount amountB).result m) := by
  refine attempt_of_completes fun allowed => ?_
  refine completes_bind allowed (within_ofEngine (Registry.require_noted _)).idle fun _ => ?_
  refine completes_bind allowed (within_trade (Trade.deposit_traded _ _ _ _)) fun minted => ?_
  exact completes_record allowed _ fun trade made =>
    ⟨venue, pool, pool, minted, ofInt 0, ctx.now, made⟩

theorem withdraw_attempt (ctx : Context ν) (block : Text) (venue : VenueKind) (pool : Text)
    (amount : Int) (m : Machine ν) :
    Attempt ctx block amount m ((withdraw ctx block venue pool amount).result m) := by
  refine attempt_of_completes fun allowed => ?_
  refine completes_bind allowed (within_ofEngine (Registry.require_noted _)).idle fun _ => ?_
  refine completes_bind allowed (within_trade (Trade.withdraw_traded _ _ _)) fun outs => ?_
  exact completes_record allowed _ fun trade made =>
    ⟨venue, pool, pool, outs.1, ofInt 0, ctx.now, made⟩

/-- An action passes the gate, trades and is recorded, in this order. -/
theorem perform_attempt (options : RunOptions ν) (ctx : Context ν) (block : Text)
    (operation : Operation) (active : operation.type = .action) (m : Machine ν) :
    ∃ size, Attempt ctx block size m ((perform options ctx block operation).result m) := by
  cases operation with
  | swap venue pool token amount slippageBps minimumOut =>
      exact ⟨amount, swap_attempt ctx block venue pool token amount slippageBps minimumOut m⟩
  | deposit venue pool amount amountB =>
      exact ⟨amount, deposit_attempt ctx block venue pool amount amountB m⟩
  | withdraw venue pool amount => exact ⟨amount, withdraw_attempt ctx block venue pool amount m⟩
  | price | volume | time | balance | priceImpact | custom => cases active
  | loop | exitAfter | exitOnLoss | exitCustom => cases active

theorem Attempt.early {ctx : Context ν} {block : Text} {size : Int} {m after : Machine ν}
    {stop : Stop} (h : Attempt ctx block size m (.error stop, after)) : stop.Early := by
  cases h with
  | refused _ _ early => exact early
  | abandoned _ _ early => exact early
  | recorded _ _ _ early => exact early stop rfl

theorem Attempt.counters {ctx : Context ν} {block : Text} {size : Int} {m : Machine ν}
    {r : Except Stop Unit × Machine ν} (h : Attempt ctx block size m r) :
    r.2.state.loopCounters = m.state.loopCounters := by
  cases h with
  | refused _ _ _ quiet => exact quiet.counters
  | abandoned _ _ _ _ idle => exact idle.counters
  | recorded _ _ _ _ _ _ recorded => exact recorded.counters

end Run

end TradingEngine
