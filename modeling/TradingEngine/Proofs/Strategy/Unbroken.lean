import TradingEngine.Proofs.Strategy.Execution
import TradingEngine.Proofs.Strategy.Readings
import TradingEngine.Proofs.Strategy.Validation
import TradingEngine.Proofs.Venue.Repeat

/-! # Runs always report

A run on paper venues gives an outcome, whatever its block list. Each of its steps ends in one of
three ways: it goes on, it stops with something to report, or it comes to a number that is too long
to be written. The last needs an input that is not legible. That the steps compose rests on what a
run has done so far: it has moved no pool away, and as a swap is made on the reserves that were
quoted just before, none of its trades has made a profit or a loss.
-/

namespace TradingEngine

open Engine Quantity

/-! ### Legible inputs -/

/-- The numbers that an operation can come to show. -/
def Operation.shown : Operation → List Int
  | .price _ _ threshold twapPeriod => threshold :: twapPeriod.toList
  | .volume _ threshold => [threshold]
  | .time notBefore notAfter => notBefore.toList ++ notAfter.toList
  | .balance _ minimum => [minimum]
  | .priceImpact _ _ _ maximumBps => [maximumBps]
  | .swap _ _ _ amount _ minimumOut => amount :: minimumOut.toList
  | .deposit _ _ amount amountB => amount :: amountB.toList
  | .withdraw _ _ amount => [amount]
  | .loop _ _ budget => [budget]
  | .custom _ | .exitAfter _ | .exitOnLoss _ | .exitCustom _ => []

/-- Everything that a run can come to show can be written: of what it is given the numbers below,
    the ages of the quotes, and how many actions its schedule has. -/
structure Interpreter.Legible (options : RunOptions Int) (blocks : List Block) (ctx : Context Int)
    (w : World Int) : Prop where
  slippageCap : Numeral.isWritable w.settings.maxSlippageBps = true
  loopCap : Numeral.isWritable w.settings.maxLoopIterations = true
  operations : ∀ b ∈ blocks, ∀ operation, b.operation? blocks = some operation →
    ∀ n ∈ operation.shown, Numeral.isWritable n = true
  actions : Numeral.isWritable (Block.actionsAt blocks (Block.schedule blocks)).length = true
  now : Numeral.isWritable ctx.now = true
  quotes : ∀ q ∈ ctx.oracle.quotes, q.Legible options.limits w.settings ctx.now
  volumes : ∀ row ∈ ctx.volumes, Numeral.isWritable row.2 = true
  balances : ∀ row ∈ ctx.balances, Numeral.isWritable row.2 = true
  maxTradeSize : Numeral.isWritable ctx.risk.maxTradeSize = true
  dailyLossLimit : Numeral.isWritable ctx.risk.dailyLossLimit = true
  total : Numeral.isWritable ctx.metrics.totalProfitLoss = true
  reserves : ∀ kind key p, w.pool? kind key = some p → p.Legible

/-- The balance of a token that is not listed is zero. -/
theorem Interpreter.Legible.balance_isWritable {options : RunOptions Int} {blocks : List Block}
    {ctx : Context Int} {w : World Int} (h : Interpreter.Legible options blocks ctx w)
    (token : Text) :
    Numeral.isWritable ((Table.get? token ctx.balances).getD 0) = true := by
  cases found : Table.get? token ctx.balances with
  | none =>
      rw [Option.getD_none]
      exact Numeral.isWritable_of_u64 (Int.le_refl 0) (by decide)
  | some n => exact h.balances (token, n) (Table.mem_of_get? found)

theorem isWritable_ofOption {limit : Option Int}
    (shown : ∀ n ∈ limit, Numeral.isWritable n = true) :
    (Json.ofOption Json.int limit).isWritable = true := by
  cases limit with
  | none => rfl
  | some n => exact shown n rfl

/-- Whatever a run asks of its context is answered: its pools can be read, and its predicates
    return. -/
structure Context.Answers (ctx : Context Int) (w : World Int) : Prop where
  pools : ∀ name source, Table.get? name ctx.pools = some source → source.Readable w
  predicates : ∀ name (predicate : Predicate Int), Table.get? name ctx.predicates = some predicate →
    ∀ snapshot venues state, ∃ holds, predicate snapshot venues state = .ok holds

/-! ### Steps -/

/-- Whether a stop can be reported, or else comes from a number that no legible input leads to. -/
def Stop.Told (legible : Prop) : Stop → Prop
  | .finished _ _ => True
  | .fault f => f.Told legible

/-- What a run that began in `first` keeps. -/
structure Machine.Sound (legible : Prop) (first : World Int) (m : Machine Int) : Prop where
  intact : World.Intact legible first m.world
  /-- No trade has made a profit or a loss. -/
  flat : ∀ t ∈ m.state.trades, t.profitLoss = 0
  paired : m.state.trades.length = m.state.executedBlockIds.length
  counted : ∀ block, 0 ≤ m.state.iterations block

namespace Run

variable {α β : Type} {legible : Prop} {first : World Int}

/-- Where a sound run may stop. -/
def SoundStop (legible : Prop) (first : World Int) (stop : Stop) (m : Machine Int) : Prop :=
  stop.Told legible ∧ m.Sound legible first

/-- A step that keeps the run sound, and that is not broken off by anything that cannot be told. -/
def Unbroken (legible : Prop) (first : World Int) (step : Run Int α) (Q : α → Prop) : Prop :=
  Ensures (Machine.Sound legible first) step (fun a m => Q a ∧ m.Sound legible first)
    (SoundStop legible first)

variable {Q : α → Prop} {S : β → Prop}

theorem Unbroken.kept {step : Run Int α} (h : Unbroken legible first step Q) :
    Ensures (Machine.Sound legible first) step (fun _ => Machine.Sound legible first)
      (SoundStop legible first) :=
  h.imp fun _ _ held => held.2

theorem unbroken_pure {a : α} (h : Q a) : Unbroken legible first (pure a) Q :=
  ensures_pure fun _ sound => ⟨h, sound⟩

theorem unbroken_bind {step : Run Int α} {next : α → Run Int β}
    (start : Unbroken legible first step Q)
    (rest : ∀ a, Q a → Unbroken legible first (next a) S) :
    Unbroken legible first (step >>= next) S :=
  ensures_bind start fun a => ensures_fact (rest a)

/-- What is known of the world may be more than that it is intact. -/
theorem ensures_settles {R : World Int → Prop} {op : Engine Int α}
    (settles : ∀ w, R w → World.Intact legible first w → Settles legible first w op Q) :
    Ensures (fun m => R m.world ∧ m.Sound legible first) (ofEngine op)
      (fun a m => Q a ∧ m.Sound legible first) (SoundStop legible first) := by
  have reached {r : Except Fault α} {m : Machine Int} {after : World Int}
      (held : R m.world ∧ m.Sound legible first) (ended : op.result m.world = (r, after)) :
      (∀ a, r = .ok a → Q a) ∧ (∀ f, r = .error f → f.Told legible) ∧
        Machine.Sound legible first { m with world := after } := by
    obtain ⟨known, intact, flat, paired, counted⟩ := held
    obtain ⟨moved, done, told⟩ := settles m.world known intact
    rw [ended] at moved done told
    exact ⟨done, told, moved, flat, paired, counted⟩
  refine ensures_ofEngine (fun a m after held ended => ?_) fun f m after held ended => ?_
  · obtain ⟨done, _, sound⟩ := reached held ended
    exact ⟨done a rfl, sound⟩
  · obtain ⟨_, told, sound⟩ := reached held ended
    exact ⟨told f rfl, sound⟩

theorem unbroken_ofEngine {op : Engine Int α}
    (settles : ∀ w, World.Intact legible first w → Settles legible first w op Q) :
    Unbroken legible first (ofEngine op) Q :=
  (ensures_settles (R := fun _ => True) fun w _ => settles w).strengthen
    fun _ sound => ⟨trivial, sound⟩

theorem unbroken_ofExcept {r : Except Fault α} (telling : Telling legible r)
    (ok : ∀ a, r = .ok a → Q a) : Unbroken legible first (ofExcept r) Q :=
  unbroken_ofEngine fun _ intact => settles_ofExcept intact telling ok

theorem unbroken_log (level : Level) (event : Text) {fields : Fields}
    (own : legible → Json.fieldsWritable fields = true) :
    Unbroken legible first (log level event fields) fun _ => True :=
  unbroken_ofEngine fun _ intact => settles_log intact level event own

theorem unbroken_fail {cause : Cause}
    (writable : legible → Json.allWritable cause.shownValues = true) :
    Unbroken legible first (fail cause : Run Int α) Q :=
  unbroken_ofEngine fun _ intact => settles_fail intact writable

theorem unbroken_finish (status : RunStatus) (reason : Text) :
    Unbroken legible first (finish status reason : Run Int α) Q :=
  ensures_stop fun m sound => ⟨_, m, result_finish status reason m, trivial, sound⟩

theorem unbroken_state :
    Unbroken legible first state fun s => s.cumulativeProfitLoss = 0 :=
  ensures_state fun _ sound => ⟨RunState.cumulativeProfitLoss_of_flat sound.flat, sound⟩

/-- A test that refuses shows nothing, and one that passes goes on. -/
theorem tested_unbroken (satisfied : Bool) {cause : Cause} {next : Run Int α}
    (silent : cause.shownValues = []) (rest : Unbroken legible first next Q) :
    Unbroken legible first (do
      if !satisfied then fail cause
      next) Q := by
  refine ensures_tested satisfied (Unbroken.kept (Q := fun _ => True) ?_) rest
  refine unbroken_fail fun _ => ?_
  rw [silent]
  rfl

theorem trigger_unbroken (block : Text) (type : TriggerType) (satisfied : Bool) {reading : Reading}
    (shown : legible → Json.fieldsWritable reading.fields = true) :
    Unbroken legible first (trigger block type satisfied reading) fun _ => True := by
  refine tested_unbroken satisfied rfl (unbroken_log _ _ fun read => ?_)
  simp only [Json.fieldsWritable, Json.isWritable, shown read, Bool.and_self]

theorem condition_unbroken (block : Text) (type : ConditionType) (satisfied : Bool)
    {reading : Reading} (shown : legible → Json.fieldsWritable reading.fields = true) :
    Unbroken legible first (condition block type satisfied reading) fun _ => True := by
  refine tested_unbroken satisfied rfl (unbroken_log _ _ fun read => ?_)
  simp only [Json.fieldsWritable, Json.isWritable, shown read, Bool.and_self]

theorem exit_unbroken (block : Text) (type : ExitType) (holds : Bool) :
    Unbroken legible first (exit block type holds) fun _ => True := by
  cases holds with
  | false => exact unbroken_pure trivial
  | true => exact unbroken_bind (unbroken_log _ _ fun _ => rfl) fun _ _ => unbroken_finish _ _

theorem record_unbroken (block : Text) {t : ExecutedTrade} (flat : t.profitLoss = 0)
    (shown : legible → Numeral.isWritable t.amountIn = true ∧
      Numeral.isWritable t.amountOut = true) :
    Unbroken legible first (record block t) fun _ => True := by
  refine unbroken_bind (Q := fun _ => True) (ensures_update fun m sound => ⟨trivial, ?_⟩)
    fun _ _ => ?_
  · obtain ⟨intact, none, paired, counted⟩ := sound
    refine ⟨intact, fun trade member => ?_, ?_, counted⟩
    · rcases List.mem_append.mp member with earlier | last
      · exact none trade earlier
      · rw [List.mem_singleton.mp last]
        exact flat
    · simp only [RunState.recordAction, List.length_append, paired]
      rfl
  · refine unbroken_bind (unbroken_log _ _ fun read => ?_) fun _ _ =>
      unbroken_ofEngine fun _ intact => settles_count intact _
    simp only [Json.fieldsWritable, Json.isWritable, shown read, Bool.and_self]

/-! ### Operations -/

variable {options : RunOptions Int} {blocks : List Block} {ctx : Context Int}
  (given : legible → Interpreter.Legible options blocks ctx first)

section

include given

theorem readPrice_unbroken (feed : Text) {twapPeriod : Option Int}
    (shown : legible → ∀ n ∈ twapPeriod, Numeral.isWritable n = true) :
    Unbroken legible first (readPrice options ctx feed twapPeriod) fun price =>
      legible → Numeral.isWritable price = true := by
  refine unbroken_bind (unbroken_ofExcept (Oracle.quote_worded _ _).telling fun q found =>
    Oracle.mem_of_quote_ok found) fun q listed => ?_
  have quoted (read : legible) := (given read).quotes q listed
  refine unbroken_bind (unbroken_ofEngine fun w intact => q.validate_settles intact quoted)
    fun spot same => ?_
  cases twapPeriod with
  | none =>
      refine unbroken_pure fun read => ?_
      rw [same]
      exact (quoted read).price
  | some seconds =>
      refine unbroken_bind (Q := fun _ => True)
        (unbroken_ofExcept (Oracle.samples_worded _ _ _ _).telling fun _ _ => trivial)
        fun samples _ => ?_
      exact unbroken_ofExcept (Twap.mean_telling samples fun read => shown read seconds rfl)
        fun price meant _ => Twap.mean_isWritable meant

omit given in
theorem readImpact_unbroken (answers : ctx.Answers first) (pool token : Text) (amount : Int) :
    Unbroken legible first (readImpact ctx pool token amount) fun impact =>
      Numeral.isWritable impact = true := by
  unfold readImpact
  split
  · exact unbroken_fail fun _ => rfl
  · rename_i source found
    refine unbroken_bind (unbroken_ofEngine fun w intact =>
      PoolSource.reserves_settles intact _ (answers.pools pool source found)) fun p tokens => ?_
    refine unbroken_bind (Q := fun _ => True)
      (unbroken_ofExcept (Pool.sides_worded tokens rfl).telling fun _ _ => trivial)
      fun sides _ => ?_
    refine unbroken_bind (Q := fun _ => True)
      (unbroken_ofExcept (ConstantProduct.swapOutput_overflows _ _ _ _).worded.telling
        fun _ _ => trivial)
      fun out _ => ?_
    exact unbroken_ofExcept (ConstantProduct.priceImpactBps_overflows _ _ _ _).worded.telling
      fun impact judged => ConstantProduct.priceImpactBps_isWritable judged

omit given in
theorem test_unbroken (answers : ctx.Answers first) (name : Text) :
    Unbroken legible first (test ctx name) fun _ => True := by
  let returns (predicate : Predicate Int) : Prop :=
    ∀ snapshot venues s, ∃ holds, predicate snapshot venues s = .ok holds
  refine unbroken_bind (Q := returns) (unbroken_ofExcept ?_ ?_) fun predicate answer => ?_
  · unfold Context.predicate
    split
    · exact telling_ok _
    · exact telling_refuse fun _ => rfl
  · intro predicate found
    unfold Context.predicate at found
    split at found
    · rename_i other here
      cases found
      exact answers.predicates name predicate here
    · cases found
  · refine unbroken_bind (Q := fun _ => True) ⟨fun sound ended => ?_, fun _ ended => by cases ended⟩
      fun m _ => ?_
    · cases ended
      exact ⟨trivial, sound⟩
    · obtain ⟨holds, returned⟩ := answer ctx.toSnapshot m.world.venues m.state
      rw [returned]
      exact unbroken_ofExcept (telling_ok holds) fun _ _ => trivial

theorem preflight_unbroken (block : Text) {amount : Int}
    (shown : legible → Numeral.isWritable amount = true) :
    Unbroken legible first (preflight ctx block amount) fun _ => True := by
  refine unbroken_bind (unbroken_ofEngine fun w intact => settles_check intact) fun _ _ => ?_
  refine unbroken_bind unbroken_state fun s flat => ?_
  refine unbroken_bind (unbroken_ofExcept (telling_ok _) fun _ made => Except.ok.inj made)
    fun total made => ?_
  subst made
  refine unbroken_bind (Q := fun _ => True) (unbroken_ofEngine fun w intact => ?_)
    fun allowed _ => ?_
  · refine RiskLimits.allow_settles intact _ _ _ fun read => ?_
    refine ⟨shown read, (given read).maxTradeSize, ?_, (given read).dailyLossLimit⟩
    rw [flat, ofInt_int, Int.add_zero]
    exact (given read).total
  · cases allowed with
    | true => exact unbroken_pure trivial
    | false =>
        refine unbroken_bind (unbroken_log _ _ fun read => ?_) fun _ _ => unbroken_finish _ _
        simp only [Json.fieldsWritable, Json.isWritable, shown read, Bool.and_self]

/-- What every action begins with. -/
theorem behind_preflight (block : Text) (venue : VenueKind) {amount : Int} {next : Run Int β}
    (shown : legible → Numeral.isWritable amount = true) (rest : Unbroken legible first next S) :
    Unbroken legible first (do
      preflight ctx block amount
      ofEngine (Registry.require venue)
      next) S := by
  refine unbroken_bind (preflight_unbroken given block shown) fun _ _ => ?_
  exact unbroken_bind (unbroken_ofEngine fun w intact => settles_require intact venue)
    fun _ _ => rest

/-- What a pool of the world pays for an amount. -/
def Priced (venue : VenueKind) (pool token : Text) (amountIn quoted : Int) (w : World Int) : Prop :=
  ∃ p, w.pool? venue (.text pool) = some p ∧ p.quote (.text token) amountIn = .ok quoted

omit given in
theorem quote_unbroken (venue : VenueKind) (pool token : Text) (amountIn : Int) :
    Ensures (Machine.Sound legible first)
      (ofEngine (Trade.quote venue (.text pool) (.text token) amountIn))
      (fun quoted m => Priced venue pool token amountIn quoted m.world ∧ m.Sound legible first)
      (SoundStop legible first) := by
  have settles : Unbroken legible first
      (ofEngine (Trade.quote venue (.text pool) (.text token) amountIn)) fun _ => True :=
    unbroken_ofEngine fun w intact => Trade.quote_settles intact venue pool token amountIn
  refine ensures_ofEngine (fun quoted m after sound ended => ?_) fun f m after sound ended =>
    settles.stopped sound ?_
  · obtain ⟨rfl, priced⟩ := Trade.of_quote_ok sound.intact.onPaper ended
    exact ⟨priced, sound⟩
  · rw [result_ofEngine, ended]
    rfl

/-- A swap that goes through is made on the reserves that were quoted, so it pays the quote. -/
theorem swapFor_unbroken (block : Text) (venue : VenueKind) (pool token : Text)
    {amount quoted least allowed : Int} (asked : legible → Numeral.isWritable least = true) :
    Ensures (fun m => Priced venue pool token amount quoted m.world ∧ m.Sound legible first)
      (swapFor ctx block venue pool token amount allowed quoted least)
      (fun _ m => True ∧ m.Sound legible first) (SoundStop legible first) := by
  refine ensures_bind (ensures_settles (Q := fun fill => fill.amountOut = quoted ∧
    Numeral.isWritable amount = true ∧ Numeral.isWritable quoted = true)
    fun w priced intact => ?_) fun fill => ensures_fact fun ⟨paid, writable⟩ => ?_
  · obtain ⟨p, held, priced⟩ := priced
    have swapped := Trade.swap_settles intact venue pool token amount least allowed asked
      fun read => (given read).slippageCap
    refine ⟨swapped.intact, fun fill ended => ?_, swapped.told⟩
    obtain ⟨q, same, paid⟩ := swapped.done fill ended
    cases held.symm.trans same
    obtain ⟨⟨lowIn, highIn⟩, lowOut, highOut⟩ := Pool.quote_bounds priced
    exact ⟨Except.ok.inj (paid.symm.trans priced), Numeral.isWritable_of_u64 lowIn highIn,
      Numeral.isWritable_of_u64 lowOut highOut⟩
  · -- On whole numbers neither the gain nor the trade can fail to be put together.
    refine record_unbroken block (Int.sub_eq_zero.mpr paid) fun _ => ?_
    rw [paid]
    exact writable

theorem swap_unbroken (block : Text) (venue : VenueKind) (pool token : Text)
    {amount slippage : Int} {minimumOut : Option Int}
    (shown : legible → Numeral.isWritable amount = true)
    (asked : legible → ∀ n ∈ minimumOut, Numeral.isWritable n = true) :
    Unbroken legible first (swap ctx block venue pool token amount slippage minimumOut)
      fun _ => True := by
  refine behind_preflight given block venue shown ?_
  refine unbroken_bind (Q := (· = first.settings)) (unbroken_ofEngine fun w intact =>
    settles_done rfl intact intact.settings) fun s same => ?_
  subst same
  refine unbroken_bind (Q := fun _ => True) (unbroken_ofExcept
    (Guard.slippage_telling fun read => (given read).slippageCap) fun _ _ => trivial)
    fun allowed _ => ?_
  refine ensures_bind (quote_unbroken venue pool token amount) fun quoted => ?_
  cases minimumOut with
  | some least =>
      exact swapFor_unbroken given block venue pool token fun read => asked read least rfl
  | none =>
      refine ensures_bind (Q := fun least m => Numeral.isWritable least = true ∧
          Priced venue pool token amount quoted m.world ∧ m.Sound legible first)
        (ensures_ofExcept (fun least m held kept => ⟨?_, held⟩) fun f m held failed => ?_)
        fun least => ensures_fact fun writable =>
          swapFor_unbroken given block venue pool token fun _ => writable
      · obtain ⟨⟨p, _, quoted⟩, _⟩ := held
        have bounds := (Pool.quote_bounds quoted).2
        obtain ⟨_, low, high⟩ := ConstantProduct.of_haircut_ok kept
        exact Numeral.isWritable_of_u64 low (Int.le_trans high bounds.2)
      · exact ⟨(ConstantProduct.haircut_overflows _ _).worded.telling f failed, held.2⟩

theorem deposit_unbroken (block : Text) (venue : VenueKind) (pool : Text) {amount : Int}
    {amountB : Option Int} (shown : legible → Numeral.isWritable amount = true)
    (second : legible → ∀ n ∈ amountB, Numeral.isWritable n = true) :
    Unbroken legible first (deposit ctx block venue pool amount amountB) fun _ => True := by
  refine behind_preflight given block venue shown ?_
  refine unbroken_bind (unbroken_ofEngine fun w intact =>
    Trade.deposit_settles intact pool amount (amountB.map ofInt) shown fun read b named => ?_)
    fun minted writable => ?_
  · obtain ⟨_, chosen, rfl⟩ := Option.map_eq_some_iff.mp named
    rw [ofInt_int]
    exact second read _ chosen
  · exact record_unbroken block rfl fun read => ⟨shown read, writable read⟩

theorem withdraw_unbroken (block : Text) (venue : VenueKind) (pool : Text) {amount : Int}
    (shown : legible → Numeral.isWritable amount = true) :
    Unbroken legible first (withdraw ctx block venue pool amount) fun _ => True := by
  refine behind_preflight given block venue shown ?_
  refine unbroken_bind (unbroken_ofEngine fun w intact =>
    Trade.withdraw_settles intact pool amount) fun outs writable => ?_
  exact record_unbroken block rfl fun read => ⟨shown read, writable read⟩

theorem perform_unbroken (answers : ctx.Answers first) (block : Text) {operation : Operation}
    (shown : legible → ∀ n ∈ operation.shown, Numeral.isWritable n = true) :
    Unbroken legible first (perform options ctx block operation) fun _ => True := by
  cases operation with
  | price feed comparison threshold twapPeriod =>
      refine unbroken_bind (readPrice_unbroken given feed fun read n chosen =>
        shown read n (List.mem_cons_of_mem _ (Option.mem_toList.mpr chosen))) fun price seen => ?_
      refine unbroken_bind (Q := fun _ => True)
        (ensures_update fun m sound => ⟨trivial, sound.1, sound.2, sound.3, sound.4⟩) fun _ _ => ?_
      refine unbroken_bind (Q := fun _ => True) (unbroken_ofExcept ?_ fun _ _ => trivial)
        fun satisfied _ => ?_
      · cases comparison <;> exact telling_ok _
      · refine trigger_unbroken _ _ _ fun read => ?_
        simp only [Reading.fields, Json.fieldsWritable, Json.isWritable, seen read,
          shown read threshold List.mem_cons_self, Bool.and_self]
  | volume feed threshold =>
      rw [perform]
      split
      · exact unbroken_fail fun _ => rfl
      · rename_i volume found
        refine trigger_unbroken _ _ _ fun read => ?_
        simp only [Reading.fields, Json.fieldsWritable, Json.isWritable,
          (given read).volumes _ (Table.mem_of_get? found),
          shown read threshold List.mem_cons_self, Bool.and_self]
  | time notBefore notAfter =>
      refine trigger_unbroken _ _ _ fun read => ?_
      have before : (Json.ofOption Json.int notBefore).isWritable = true :=
        isWritable_ofOption fun n chosen =>
          shown read n (List.mem_append_left _ (Option.mem_toList.mpr chosen))
      have past : (Json.ofOption Json.int notAfter).isWritable = true :=
        isWritable_ofOption fun n chosen =>
          shown read n (List.mem_append_right _ (Option.mem_toList.mpr chosen))
      simp only [Reading.fields, Json.fieldsWritable, Json.isWritable, (given read).now, before,
        past, Bool.and_self]
  | balance token minimum =>
      refine condition_unbroken _ _ _ fun read => ?_
      simp only [Reading.fields, Json.fieldsWritable, Json.isWritable,
        (given read).balance_isWritable token, shown read minimum List.mem_cons_self, Bool.and_self]
  | priceImpact pool token amount maximumBps =>
      refine unbroken_bind (readImpact_unbroken answers pool token amount) fun impact writable => ?_
      refine unbroken_bind (Q := fun _ => True)
        (unbroken_ofExcept (telling_ok _) fun _ _ => trivial) fun bounded _ => ?_
      refine condition_unbroken _ _ _ fun read => ?_
      simp only [Reading.fields, Json.fieldsWritable, toJson_int, Json.isWritable, writable,
        shown read maximumBps List.mem_cons_self, Bool.and_self]
  | custom predicate =>
      exact unbroken_bind (test_unbroken answers predicate) fun _ _ =>
        condition_unbroken _ _ _ fun _ => rfl
  | swap venue pool token amount slippage minimumOut =>
      exact swap_unbroken given block venue pool token
        (fun read => shown read amount List.mem_cons_self) fun read n chosen =>
          shown read n (List.mem_cons_of_mem _ (Option.mem_toList.mpr chosen))
  | deposit venue pool amount amountB =>
      exact deposit_unbroken given block venue pool
        (fun read => shown read amount List.mem_cons_self) fun read n chosen =>
          shown read n (List.mem_cons_of_mem _ (Option.mem_toList.mpr chosen))
  | withdraw venue pool amount =>
      exact withdraw_unbroken given block venue pool
        fun read => shown read amount List.mem_cons_self
  | loop => exact unbroken_pure trivial
  | exitAfter | exitOnLoss =>
      exact unbroken_bind unbroken_state fun _ _ => exit_unbroken _ _ _
  | exitCustom predicate =>
      exact unbroken_bind (test_unbroken answers predicate) fun _ _ => exit_unbroken _ _ _

end

theorem announce_unbroken (i : Instruction) :
    Unbroken legible first (announce i) fun _ => True :=
  unbroken_bind (unbroken_ofEngine fun _ intact => settles_count intact _) fun _ _ =>
    unbroken_log _ _ fun _ => rfl

/-- An iteration within a budget that can be written has a number that can be written. -/
theorem startIteration_unbroken (block : Text) {budget : Int}
    (shown : legible → Numeral.isWritable budget = true) :
    Ensures (fun m => m.Sound legible first ∧ m.state.iterations block < budget)
      (startIteration block) (fun _ => Machine.Sound legible first) (SoundStop legible first) := by
  let within (m : Machine Int) : Prop :=
    0 ≤ m.state.iterations block ∧ m.state.iterations block ≤ budget
  refine ensures_bind (Q := fun _ m => within m ∧ m.Sound legible first)
    (ensures_update fun m held => ?_) fun _ => ?_
  · obtain ⟨⟨intact, flat, paired, counted⟩, left⟩ := held
    have started (other : Text) : (m.state.startIteration block).iterations other =
        if block = other then m.state.iterations block + 1 else m.state.iterations other := by
      simp only [RunState.startIteration, RunState.iterations, Table.get?_put]
      split <;> rfl
    have before := counted block
    refine ⟨?_, intact, flat, paired, fun other => ?_⟩
    · dsimp only [within]
      rw [started, if_pos rfl]
      omega
    · rw [started]
      have others := counted other
      split <;> omega
  · refine ensures_bind (Q := fun s m => (0 ≤ s.iterations block ∧ s.iterations block ≤ budget) ∧
      m.Sound legible first) (ensures_state fun m held => held) fun s => ?_
    refine ensures_fact fun bounds => (unbroken_log _ _ fun read => ?_).kept
    have iteration : Numeral.isWritable (s.iterations block) = true :=
      Numeral.isWritable_of_natAbs_le (by omega) (shown read)
    simp only [Json.fieldsWritable, Json.isWritable, iteration, Bool.and_self]

end Run

/-! ### The whole run -/

namespace Interpreter

variable {options : RunOptions Int} {blocks : List Block} {ctx : Context Int} {w after : World Int}
  {legible : Prop} {first : World Int}

theorem steps_unbroken (options : RunOptions Int) (blocks : List Block) (answers : ctx.Answers w) :
    Run.Ensures (Machine.Sound (Legible options blocks ctx w) w)
      (steps options blocks ctx w.settings.maxLoopIterations)
      (fun _ => Machine.Sound (Legible options blocks ctx w) w)
      (Run.SoundStop (Legible options blocks ctx w) w) := by
  refine ensures_steps (fun f m sound failed => ⟨?_, sound⟩) fun program made i member => ?_
  · exact Program.ofBlocks_telling blocks (fun read => read.loopCap) f failed
  · obtain ⟨b, among, _, reads⟩ := Program.block_of_mem made member
    have shown (read : Legible options blocks ctx w) :
        ∀ n ∈ i.operation.shown, Numeral.isWritable n = true :=
      read.operations b among i.operation reads
    refine ⟨fun _ => ?_, fun _ => (Run.announce_unbroken i).kept, fun start stop budget loop => ?_⟩
    · exact (Run.unbroken_bind (Run.announce_unbroken i) fun _ _ =>
        Run.perform_unbroken id answers i.id shown).kept
    · refine Run.startIteration_unbroken i.id fun read => shown read budget ?_
      rw [loop]
      exact List.mem_cons_self

/-- A run executes no more actions than its schedule has. -/
theorem executed_length_le {maxIterations : Int} {ended : Except Stop Unit} {m : Machine Int}
    (taken : (steps options blocks ctx maxIterations).result ⟨w, {}⟩ = (ended, m)) :
    m.state.executedBlockIds.length ≤ (Block.actionsAt blocks (Block.schedule blocks)).length := by
  cases judged : Block.validate maxIterations blocks with
  | ok index =>
      have follows := steps_follow options ctx judged w
      rw [taken] at follows
      cases follows with
      | done _ _ _ executed _ =>
          rw [executed]
          exact Nat.le_refl _
      | stopped _ _ _ _ _ _ first _ executed =>
          rw [executed]
          exact first.length_le
  | error f =>
      have refused : Program.ofBlocks maxIterations blocks = .error f := by
        rw [Program.ofBlocks, judged]
        rfl
      rw [steps, Run.result_bind, Run.result_ofExcept, refused] at taken
      cases taken
      exact Nat.zero_le _

theorem conclude_settles (intact : World.Intact legible first w) {outcome : RunReport}
    (shown : legible → Numeral.isWritable outcome.state.executedBlockIds.length = true ∧
      Numeral.isWritable outcome.state.trades.length = true) :
    Settles legible first w (conclude outcome) fun _ => True := by
  refine settles_bind (settles_count intact _) fun _ _ intact _ => ?_
  refine settles_bind (settles_log intact _ _ fun read => ?_) fun _ _ intact _ =>
    settles_done rfl intact trivial
  cases outcome.reason <;>
    simp only [Json.ofOption, Json.fieldsWritable, Json.isWritable, shown read, Bool.and_self]

theorem report_settles (intact : World.Intact legible first w) {ended : Except Stop Unit}
    {s : RunState} (told : ∀ stop, ended = .error stop → stop.Told legible)
    (shown : legible → Numeral.isWritable s.executedBlockIds.length = true ∧
      Numeral.isWritable s.trades.length = true) :
    Settles legible first w (report ended s) fun _ => True := by
  cases ended with
  | ok _ => exact conclude_settles intact shown
  | error stop =>
      have told := told stop rfl
      cases stop with
      | finished status reason => exact conclude_settles intact shown
      | fault f =>
          cases f with
          | failure failure =>
              refine settles_bind (settles_log intact _ _ fun read => ?_) fun _ _ intact _ =>
                conclude_settles intact shown
              simp only [Json.fieldsWritable, Json.isWritable, shown read, Bool.and_self]
          | refused | breakdown => exact settles_stopped rfl intact told

theorem unfailing_conclude (outcome : RunReport) :
    Unfailing (conclude outcome : Engine Int RunReport) := by
  intro w e after failed
  rw [conclude, result_bind, result_count] at failed
  exact unfailing_log _ _ _ (unfailing_pure outcome) _ e after failed

theorem unfailing_report (ended : Except Stop Unit) (s : RunState) :
    Unfailing (report ended s : Engine Int RunReport) := by
  cases ended with
  | ok _ => exact unfailing_conclude _
  | error stop =>
      cases stop with
      | finished status reason => exact unfailing_conclude _
      | fault f =>
          cases f with
          | failure failure => exact unfailing_log _ _ _ (unfailing_conclude _)
          | refused | breakdown =>
              intro w e after failed
              cases failed

/-- On paper venues, with a context that answers, a run gives an outcome, whatever its block list.
    Nothing else comes of it but the breakdown at a number that is too long to be written, and that
    only where not all that the run can come to show is legible. Of a list that is accepted every
    block has all that its dispatch reads. -/
theorem run_returns (options : RunOptions Int) (blocks : List Block) {ctx : Context Int}
    {w : World Int} (onPaper : w.OnPaper) (answers : ctx.Answers w) :
    ((∃ outcome, ((run options blocks ctx).result w).1 = .ok outcome) ∨
      ((run options blocks ctx).result w).1 = .error (.breakdown .tooManyDigits) ∧
        ¬Legible options blocks ctx w) ∧
    ∀ index, Block.validate w.settings.maxLoopIterations blocks = .ok index →
      ∀ b ∈ blocks, (b.operation? blocks).isSome := by
  refine ⟨?_, fun index accepted => Block.operation?_of_validate accepted⟩
  cases ran : (run options blocks ctx).result w with
  | mk r after =>
      obtain ⟨ended, m, taken, reported⟩ := of_run ran
      have steps := steps_unbroken options blocks answers
      have begins : Machine.Sound (Legible options blocks ctx w) w ⟨w, {}⟩ := by
        refine ⟨⟨rfl, onPaper, fun _ _ there => there, fun read => read.reserves⟩, ?_, rfl, ?_⟩
        · exact List.forall_mem_nil _
        · exact fun block => Int.le_refl 0
      have ending : m.Sound (Legible options blocks ctx w) w ∧
          ∀ stop, ended = .error stop → stop.Told (Legible options blocks ctx w) := by
        cases ended with
        | ok _ => exact ⟨steps.done begins taken, fun stop same => by cases same⟩
        | error stop =>
            obtain ⟨told, sound⟩ := steps.stopped begins taken
            exact ⟨sound, fun _ same => by cases same; exact told⟩
      obtain ⟨sound, told⟩ := ending
      have few (read : Legible options blocks ctx w) :
          Numeral.isWritable m.state.executedBlockIds.length = true ∧
            Numeral.isWritable m.state.trades.length = true := by
        rw [sound.paired, and_self]
        have bound := executed_length_le taken
        exact Numeral.isWritable_of_natAbs_le (by omega) read.actions
      have settles := report_settles sound.intact told few
      cases r with
      | ok outcome => exact .inl ⟨outcome, rfl⟩
      | error f =>
          have told := settles.told f (congrArg Prod.fst reported)
          cases f with
          | failure e => exact absurd reported (unfailing_report _ _ _ _ _)
          | refused record problems => exact told.elim
          | breakdown b =>
              obtain ⟨rfl, illegible⟩ := told
              exact .inr ⟨rfl, illegible⟩

end Interpreter

/-- Looks at a price, asks the caller, and sells again and again as long as the impact is small. -/
def guardedBlocks : List Block :=
  [{ id := "watch", type := .trigger, triggerType := some .price,
     parameters := { feedId := some "SOL", priceCondition := some .above,
                     priceThreshold := some 1 } },
   { id := "ask", type := .condition, conditionType := some .custom,
     parameters := { predicate := some "open" } },
   { id := "weigh", type := .condition, conditionType := some .priceImpact,
     parameters := { pool := some "A-B", token := some "A", amount := some 100,
                     maxPriceImpactBps := some 2000 } },
   { id := "sell", type := .action, actionType := some .swap,
     parameters := { venue := some .raydium, pool := some "A-B", token := some "A",
                     amount := some 100, slippageBps := some 100 } },
   { id := "again", type := .loop,
     parameters := { loopStart := some "weigh", loopEnd := some "sell",
                     maxIterations := some 2 } }]

/-- A world whose journal is shown. -/
def pairMarket : World Int := { quietWorld (pairPool 1000 4000 1000) with journal := {} }

/-- A caller with a price, a predicate and a pool that is read where it stands. -/
def guardedContext : Context Int :=
  { oracle := { now := 0, quotes := [⟨.raydium, "SOL", 100000000, 1000, 0⟩] }
    risk := { maxTradeSize := 100, dailyLossLimit := 0 }
    metrics := .none
    now := 0
    pools := [("A-B", .live .raydium (.text "A-B"))]
    predicates := [("open", fun _ _ _ => .ok true)] }

/-- The options that the standard settings give. -/
def standardOptions : RunOptions Int :=
  let s : Settings Int := .standard
  ⟨⟨s.maxRelativeConfidenceBps, s.minConfidence⟩, s.priceEqualTolerance⟩

theorem pairMarket_pool {kind : VenueKind} {key : Key} {p : Pool Int}
    (held : pairMarket.pool? kind key = some p) : p = pairPool 1000 4000 1000 := by
  obtain ⟨v, found, held⟩ := World.of_pool? held
  cases kind <;> cases found
  cases List.mem_singleton.mp (Table.mem_of_get? held)
  rfl

theorem pairMarket_onPaper : pairMarket.OnPaper where
  venues kind venue found := by
    cases kind <;> cases found
    exact ⟨_, rfl⟩
  tokens kind key p held := by
    cases pairMarket_pool held
    exact ⟨rfl, rfl⟩
  bound := rfl

theorem guardedContext_answers : guardedContext.Answers pairMarket where
  pools name source found := by
    cases List.mem_singleton.mp (Table.mem_of_get? found)
    rfl
  predicates name predicate found _ _ _ := by
    cases List.mem_singleton.mp (Table.mem_of_get? found)
    exact ⟨true, rfl⟩

theorem guardedBlocks_legible :
    Interpreter.Legible standardOptions guardedBlocks guardedContext pairMarket := by
  have small {n : Int} (bounds : -1000000000 ≤ n ∧ n ≤ 1000000000) :
      Numeral.isWritable n = true := Numeral.isWritable_of_small (by omega) (by omega)
  have operations : ∀ b ∈ guardedBlocks, ∀ operation ∈ b.operation? guardedBlocks,
      ∀ n ∈ operation.shown, -1000000000 ≤ n ∧ n ≤ 1000000000 := by decide
  refine ⟨small (by decide), small (by decide), fun b among operation reads n shown =>
    small (operations b among operation reads n shown), small (by decide), small (by decide), ?_,
    ?_, ?_, small (by decide), small (by decide), small (by decide), ?_⟩
  · intro q listed
    cases List.mem_singleton.mp listed
    exact ⟨small (by decide), small (by decide), small (by decide), small (by decide),
      small (by decide), small (by decide)⟩
  · exact List.forall_mem_nil _
  · exact List.forall_mem_nil _
  · intro kind key p held
    cases pairMarket_pool held
    exact ⟨small (by decide), small (by decide)⟩

theorem Interpreter.guardedBlocks_return :
    (∃ outcome, ((run standardOptions guardedBlocks guardedContext).result pairMarket).1 =
      .ok outcome) ∧ ∀ b ∈ guardedBlocks, (b.operation? guardedBlocks).isSome := by
  obtain ⟨returned | broken, reads⟩ :=
    run_returns standardOptions guardedBlocks pairMarket_onPaper guardedContext_answers
  · exact ⟨returned, reads _ rfl⟩
  · exact absurd guardedBlocks_legible broken.2

/-- A caller in the far past, with a quote of the far future. Their times have as many digits as can
    be written; the age of the quote has one more. -/
def distantContext : Context Int :=
  { oracle := { now := 0
                quotes := [⟨.raydium, "SOL", 100000000, 2000000, (9 * 10 ^ 4299 : Nat)⟩] }
    risk := { maxTradeSize := 0, dailyLossLimit := 0 }
    metrics := .none
    now := -((9 * 10 ^ 4299 : Nat) : Int) }

/-- The confidence of the quote is too wide. Its refusal would be told together with its age. -/
theorem Interpreter.distantQuote_breaks_off :
    World.OnPaper { settings := .standard } ∧ distantContext.Answers { settings := .standard } ∧
      ((run standardOptions (guardedBlocks.take 1) distantContext).result
        { settings := .standard }).1 = .error (.breakdown .tooManyDigits) := by
  refine ⟨⟨fun _ _ found => ?_, fun _ _ _ held => ?_, rfl⟩,
    ⟨fun _ _ found => ?_, fun _ _ found => ?_⟩, ?_⟩
  · cases found
  · cases held
  · cases found
  · cases found
  · exact of_brokeOff (by decide +kernel)

end TradingEngine
