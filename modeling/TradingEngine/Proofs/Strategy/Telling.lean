import TradingEngine.Proofs.Venue.Legible

/-! # Faults that can be told

A run reports every failure. Beside failures there is one more thing that can happen to it: it comes
to a number that has too many digits to be written. So the faults of what it does are judged under
the assumption that whatever it is given is legible. Then there is no such number, and without the
assumption there is still no other breakdown. On the way the pools stay where they are and legible.
-/

namespace TradingEngine

open Engine Quantity

/-- Whether a fault is a failure, or else a number with too many digits that no legible input could
    have led to. -/
def Fault.Told (legible : Prop) : Fault → Prop
  | .failure _ => True
  | .refused .. => False
  | .breakdown b => b = .tooManyDigits ∧ ¬legible

/-- Whatever fault a computation ends in can be told. -/
def Telling {α : Type} (legible : Prop) (r : Except Fault α) : Prop :=
  ∀ f, r = .error f → f.Told legible

section

variable {α β : Type} {legible : Prop}

theorem Cause.told {cause : Cause}
    (writable : legible → Json.allWritable cause.shownValues = true) :
    cause.fault.Told legible := by
  unfold Cause.fault
  split
  · trivial
  · exact ⟨rfl, fun given => absurd (writable given) ‹_›⟩

theorem Worded.telling {r : Except Fault α} (worded : Worded r) : Telling legible r := by
  intro f failed
  obtain ⟨cause, rfl⟩ := worded f failed
  trivial

theorem telling_ok (a : α) : Telling legible (.ok a) := (worded_ok a).telling

theorem telling_refuse {cause : Cause}
    (writable : legible → Json.allWritable cause.shownValues = true) :
    Telling legible (refuse cause : Except Fault α) := by
  intro f failed
  cases failed
  exact Cause.told writable

theorem telling_bind {r : Except Fault α} {next : α → Except Fault β} (first : Telling legible r)
    (rest : ∀ a, r = .ok a → Telling legible (next a)) : Telling legible (r >>= next) := by
  intro f failed
  cases r with
  | ok a => exact rest a rfl f failed
  | error g =>
      cases failed
      exact first _ rfl

end

/-! ### Computations -/

section

variable {legible : Prop}

/-- A slippage that is held against the cap is a share, so it is the cap that may be too long. -/
theorem Guard.slippage_telling {s : Settings Int} {bps : Int}
    (cap : legible → Numeral.isWritable s.maxSlippageBps = true) :
    Telling legible (Guard.slippage s bps) := by
  simp only [Guard.slippage, Guard.bps, whole?_int, held_int, lt_int]
  split
  · exact telling_refuse fun _ => rfl
  · rename_i share
    simp only [Bool.or_eq_true, decide_eq_true_eq, not_or, Int.not_lt] at share
    rw [Except.ok_bind, Except.ok_bind, Except.ok_bind]
    split
    · refine telling_refuse fun read => ?_
      have value := Numeral.isWritable_of_u64 share.1 (Int.le_trans share.2 (by decide))
      simp only [Cause.shownValues, toJson_int, Json.allWritable, Json.isWritable, value, cap read,
        Bool.and_self]
    · exact telling_ok _

theorem Guard.minimumOut_telling {out least : Int}
    (paid : legible → Numeral.isWritable out = true)
    (asked : legible → Numeral.isWritable least = true) :
    Telling legible (Guard.minimumOut out least) := by
  by_cases below : out < least
  · simp only [Guard.minimumOut, lt_int, Except.ok_bind, decide_eq_true below, if_true]
    refine telling_refuse fun read => ?_
    simp only [Cause.shownValues, toJson_int, Json.allWritable, Json.isWritable, paid read,
      asked read, Bool.and_self]
  · rw [Guard.minimumOut_of_le (Int.not_lt.mp below)]
    exact telling_ok _

theorem Pool.sale_telling {p : Pool Int} {token : Text} {amountIn least slippageBps : Int}
    (tokens : p.tokenA.isWritable = true ∧ p.tokenB.isWritable = true)
    (asked : legible → Numeral.isWritable least = true) :
    Telling legible (p.sale (.text token) amountIn (some least) slippageBps) := by
  refine telling_bind (quote_worded tokens rfl).telling fun out quoted => ?_
  have bounds := (quote_bounds quoted).2
  refine telling_bind (telling_ok least) fun minimum same => ?_
  cases same
  refine telling_bind (Guard.minimumOut_telling
    (fun _ => Numeral.isWritable_of_u64 bounds.1 bounds.2) asked) fun _ _ => ?_
  exact telling_bind (Checked.toU64_overflows _).worded.telling fun _ _ => telling_ok out

end

/-! ### Operations -/

/-- What a run needs of its world and keeps, if it has begun in `first`. -/
structure World.Intact (legible : Prop) (first w : World Int) : Prop where
  settings : w.settings = first.settings
  onPaper : w.OnPaper
  present : ∀ kind key, (first.pool? kind key).isSome → (w.pool? kind key).isSome
  reserves : legible → ∀ kind key p, w.pool? kind key = some p → p.Legible

section

variable {α β : Type} {legible : Prop} {first w after : World Int}

theorem World.Intact.journalled (intact : World.Intact legible first w)
    (h : w.Journalled after) : World.Intact legible first after where
  settings := h.settings.trans intact.settings
  onPaper := intact.onPaper.journalled h
  present kind key there := by
    rw [World.pool?_of_venues h.venues]
    exact intact.present kind key there
  reserves read kind key p := by
    rw [World.pool?_of_venues h.venues]
    exact intact.reserves read kind key p

theorem World.Intact.noted (intact : World.Intact legible first w) (h : w.Noted after) :
    World.Intact legible first after := intact.journalled h.journalled

theorem World.Intact.setPool {kind : VenueKind} {key : Key} {p q : Pool Int}
    (intact : World.Intact legible first w) (held : w.pool? kind key = some p)
    (upheld : Pool.Upheld legible p q) : World.Intact legible first (w.setPool kind key q) where
  settings := (World.setPool_traded kind key q w).settings.trans intact.settings
  onPaper := intact.onPaper.setPool held upheld.tokenA upheld.tokenB
  present other k there := by
    by_cases same : other = kind ∧ k = key
    · obtain ⟨rfl, rfl⟩ := same
      rw [World.pool?_setPool held]
      rfl
    · rw [World.pool?_setPool_of_ne (Decidable.not_and_iff_or_not.mp same)]
      exact intact.present other k there
  reserves read other k r found := by
    by_cases same : other = kind ∧ k = key
    · obtain ⟨rfl, rfl⟩ := same
      rw [World.pool?_setPool held] at found
      cases found
      exact upheld.legible read (intact.reserves read other k p held)
    · rw [World.pool?_setPool_of_ne (Decidable.not_and_iff_or_not.mp same)] at found
      exact intact.reserves read other k r found

namespace Engine

/-- From this world an operation ends on an intact world, with a result that has `Q` or with a fault
    that can be told. -/
structure Settles (legible : Prop) (first w : World Int) (op : Engine Int α) (Q : α → Prop) :
    Prop where
  intact : World.Intact legible first (op.result w).2
  done (a : α) : (op.result w).1 = .ok a → Q a
  told (f : Fault) : (op.result w).1 = .error f → f.Told legible

variable {Q : α → Prop} {S : β → Prop}

theorem settles_stopped {op : Engine Int α} {f : Fault} (stopped : op.result w = (.error f, after))
    (intact : World.Intact legible first after) (told : f.Told legible) :
    Settles legible first w op Q where
  intact := by rwa [stopped]
  done a ended := by
    rw [stopped] at ended
    cases ended
  told g ended := by
    rw [stopped] at ended
    cases ended
    exact told

/-- An operation that comes down to another one, on its world. -/
theorem settles_of_eq {op rest : Engine Int α} (same : op.result w = rest.result after)
    (settles : Settles legible first after rest Q) : Settles legible first w op Q where
  intact := by
    rw [same]
    exact settles.intact
  done a := by
    rw [same]
    exact settles.done a
  told f := by
    rw [same]
    exact settles.told f

theorem settles_done {op : Engine Int α} {a : α} (ended : op.result w = (.ok a, after))
    (intact : World.Intact legible first after) (h : Q a) : Settles legible first w op Q where
  intact := by rwa [ended]
  done b same := by
    rw [ended] at same
    cases same
    exact h
  told g failed := by
    rw [ended] at failed
    cases failed

theorem settles_settings_bind {next : Settings Int → Engine Int β}
    (rest : Settles legible first w (next w.settings) S) :
    Settles legible first w (settings >>= next) S :=
  settles_of_eq (result_bind settings next w) rest

theorem settles_fail (intact : World.Intact legible first w) {cause : Cause}
    (writable : legible → Json.allWritable cause.shownValues = true) :
    Settles legible first w (fail cause : Engine Int α) Q :=
  settles_stopped rfl intact (Cause.told writable)

theorem settles_bind {op : Engine Int α} {next : α → Engine Int β}
    (start : Settles legible first w op Q)
    (rest : ∀ a after, World.Intact legible first after → Q a →
      Settles legible first after (next a) S) :
    Settles legible first w (op >>= next) S := by
  obtain ⟨intact, done, told⟩ := start
  have same := result_bind op next w
  cases ended : op.result w with
  | mk r between =>
      rw [ended] at intact done told same
      cases r with
      | ok a => exact settles_of_eq same (rest a between intact (done a rfl))
      | error f => exact settles_stopped same intact (told f rfl)

/-- The world is the same after a computation that touches nothing. -/
theorem settles_ofExcept_bind (intact : World.Intact legible first w) {r : Except Fault α}
    {next : α → Engine Int β} (telling : Telling legible r)
    (rest : ∀ a, r = .ok a → Settles legible first w (next a) S) :
    Settles legible first w (ofExcept r >>= next) S := by
  have same := result_bind (ofExcept r) next w
  rw [result_ofExcept] at same
  cases r with
  | ok a => exact settles_of_eq same (rest a rfl)
  | error f => exact settles_stopped same intact (telling f rfl)

theorem settles_ofExcept (intact : World.Intact legible first w) {r : Except Fault α}
    (telling : Telling legible r) (ok : ∀ a, r = .ok a → Q a) :
    Settles legible first w (ofExcept r) Q := by
  rw [← bind_pure (ofExcept r)]
  exact settles_ofExcept_bind intact telling fun a made => settles_done rfl intact (ok a made)

theorem settles_check_bind (intact : World.Intact legible first w) {next : Unit → Engine Int β}
    (rest : Settles legible first w (next ()) S) :
    Settles legible first w (HaltSwitch.check >>= next) S := by
  have same := HaltSwitch.result_check_bind next w
  split at same
  · exact settles_stopped same (intact.journalled ⟨rfl, rfl, rfl, rfl, rfl, rfl⟩)
      (Cause.told fun _ => rfl)
  · exact settles_of_eq same rest

theorem settles_find_bind (intact : World.Intact legible first w) {kind : VenueKind} {shown : Text}
    {next : Venue Int → Engine Int β}
    (rest : ∀ v, Table.get? kind w.venues = some (.paper v) →
      Settles legible first w (next (.paper v)) S) :
    Settles legible first w (Registry.find kind shown >>= next) S := by
  have same := result_bind (Registry.find kind shown) next w
  rw [Registry.result_find] at same
  cases here : Table.get? kind w.venues with
  | none =>
      rw [here] at same
      exact settles_stopped same intact (Cause.told fun _ => rfl)
  | some venue =>
      obtain ⟨v, rfl⟩ := intact.onPaper.venues kind venue here
      rw [here] at same
      exact settles_of_eq same (rest v here)

theorem settles_check (intact : World.Intact legible first w) :
    Settles legible first w HaltSwitch.check fun _ => True := by
  rw [← bind_pure HaltSwitch.check]
  exact settles_check_bind intact (settles_done rfl intact trivial)

theorem settles_require (intact : World.Intact legible first w) (kind : VenueKind) :
    Settles legible first w (Registry.require kind) fun _ => True :=
  settles_find_bind intact fun _ _ => settles_done rfl intact trivial

/-- An entry that can be written unless it shows what is not legible. -/
theorem settles_log (intact : World.Intact legible first w) (level : Level) (event : Text)
    {fields : Fields} (own : legible → Json.fieldsWritable fields = true) :
    Settles legible first w (log level event fields) fun _ => True := by
  have same := result_log level event fields w
  have journalled := log_journalled level event fields w
  cases written : w.journal.write level event fields with
  | ok journal =>
      rw [written] at same
      rw [same] at journalled
      exact settles_done same (intact.journalled journalled) trivial
  | error b =>
      rw [written] at same
      refine settles_stopped same intact ⟨Journal.of_write_error written, fun read => ?_⟩
      exact Journal.unwritable_of_write_error written ⟨intact.onPaper.bound, own read⟩

theorem settles_count (intact : World.Intact legible first w) (tally : Tally) :
    Settles legible first w (count tally) fun _ => True :=
  settles_done (result_count tally w) (intact.noted (count_noted tally w)) trivial

end Engine

theorem RiskLimits.allow_settles (intact : World.Intact legible first w) (risk : RiskLimits)
    (metrics : Metrics Int) (size : Int)
    (shown : legible → Numeral.isWritable size = true ∧
      Numeral.isWritable risk.maxTradeSize = true ∧
      Numeral.isWritable metrics.totalProfitLoss = true ∧
      Numeral.isWritable risk.dailyLossLimit = true) :
    Settles legible first w (risk.allow metrics size) fun _ => True := by
  have judged : Telling legible (risk.broken? metrics size) := by
    refine telling_bind (telling_ok _) fun tooLarge _ => ?_
    cases tooLarge with
    | true => exact telling_ok _
    | false =>
        refine telling_bind (telling_ok _) fun tooLate _ => ?_
        cases tooLate <;> exact telling_ok _
  refine settles_ofExcept_bind intact judged fun broken _ => ?_
  cases broken with
  | none => exact settles_done rfl intact trivial
  | some limit =>
      cases limit <;>
        · refine settles_bind (settles_count intact _) fun _ _ intact _ => ?_
          refine settles_bind (settles_log intact _ _ fun read => ?_) fun _ _ intact _ =>
            settles_done rfl intact trivial
          simp only [Json.fieldsWritable, toJson_int, Json.isWritable, shown read, Bool.and_self]

/-! ### Calls on venues -/

namespace Trade

variable {kind : VenueKind} {pool token : Text}

/-- A step on a pool is refused where there is none. Otherwise what it does is up to the pool. -/
theorem settles_onPool_bind (intact : World.Intact legible first w) {v : PaperVenue Int}
    (here : Table.get? kind w.venues = some (.paper v)) {step : PoolStep Int α}
    {next : α → Engine Int β} {S : β → Prop}
    (upheld : ∀ p, Pool.Upheld legible p (step.result p).2)
    (telling : ∀ p, w.pool? kind (.text pool) = some p → Telling legible (step.result p).1)
    (rest : ∀ p a after, w.pool? kind (.text pool) = some p → (step.result p).1 = .ok a →
      World.Intact legible first after → Settles legible first after (next a) S) :
    Settles legible first w (onPool kind v (.text pool) step >>= next) S := by
  have same := result_bind (onPool kind v (.text pool) step) next w
  cases there : Table.get? (.text pool) v.pools with
  | none =>
      rw [result_onPool_missing (Key.ofName_text pool) there] at same
      exact settles_stopped same intact (Cause.told fun _ => rfl)
  | some p =>
      have held : w.pool? kind (.text pool) = some p := (World.pool?_eq here).trans there
      have moved := intact.setPool held (upheld p)
      rw [result_onPool here (Key.ofName_text pool) there] at same
      cases ended : (step.result p).1 with
      | ok a =>
          rw [ended] at same
          exact settles_of_eq same (rest p a _ held ended moved)
      | error f =>
          rw [ended] at same
          exact settles_stopped same moved (telling p held f ended)

theorem quote_settles (intact : World.Intact legible first w) (kind : VenueKind)
    (pool token : Text) (amountIn : Int) :
    Settles legible first w (quote kind (.text pool) (.text token) amountIn) fun _ => True := by
  refine settles_find_bind intact fun v here => settles_ofExcept intact ?_ fun _ _ => trivial
  simp only [PaperVenue.quote, PaperVenue.pool, Table.keyed?_text]
  cases there : Table.get? (.text pool) v.pools with
  | none => exact telling_refuse fun _ => rfl
  | some p =>
      have tokens := intact.onPaper.tokens kind (.text pool) p ((World.pool?_eq here).trans there)
      exact (Pool.quote_worded tokens rfl).telling

/-- What is quoted is what the pool quotes, and nothing changes for it. -/
theorem of_quote_ok {amountIn quoted : Int} (onPaper : w.OnPaper)
    (h : (quote kind (.text pool) (.text token) amountIn).result w = (.ok quoted, after)) :
    after = w ∧ ∃ p, w.pool? kind (.text pool) = some p ∧
      p.quote (.text token) amountIn = .ok quoted := by
  cases here : Table.get? kind w.venues with
  | none =>
      rw [quote, result_bind, Registry.result_find, here] at h
      cases h
  | some venue =>
      obtain ⟨v, rfl⟩ := onPaper.venues kind venue here
      rw [result_quote amountIn here] at h
      obtain ⟨priced, rfl⟩ := Prod.mk.inj h
      obtain ⟨p, found, priced⟩ := Except.of_bind_ok priced
      refine ⟨rfl, p, (World.pool?_eq here).trans ?_, priced⟩
      simp only [PaperVenue.pool, Table.keyed?_text] at found
      cases there : Table.get? (.text pool) v.pools with
      | none =>
          rw [there] at found
          cases found
      | some other =>
          rw [there] at found
          exact congrArg some (Except.ok.inj found)

theorem swap_settles (intact : World.Intact legible first w) (kind : VenueKind)
    (pool token : Text) (amountIn least slippage : Int)
    (asked : legible → Numeral.isWritable least = true)
    (cap : legible → Numeral.isWritable first.settings.maxSlippageBps = true) :
    Settles legible first w
      (swap kind (.text pool) (.text token) amountIn (some least) slippage) fun fill =>
        ∃ p, w.pool? kind (.text pool) = some p ∧
          p.quote (.text token) amountIn = .ok fill.amountOut := by
  refine settles_find_bind intact fun v here => settles_check_bind intact ?_
  refine settles_settings_bind ?_
  rw [intact.settings]
  refine settles_ofExcept_bind intact (Guard.slippage_telling cap) fun _ _ => ?_
  refine settles_onPool_bind intact here (fun p => p.swap_upholds _ _ _ _) (fun p held => ?_)
    fun p out after held sold intact => ?_
  · rw [PoolStep.swap_ends]
    exact Pool.sale_telling (intact.onPaper.tokens kind (.text pool) p held) asked
  · rw [PoolStep.swap_ends] at sold
    have priced := Pool.of_sale_ok sold
    obtain ⟨⟨lowIn, highIn⟩, lowOut, highOut⟩ := Pool.quote_bounds priced
    refine settles_bind (settles_log intact _ _ fun _ => ?_) fun _ _ intact _ => ?_
    · simp only [Json.fieldsWritable, Json.isWritable, toJson_int, Bool.and_self,
        Numeral.isWritable_of_u64 lowIn highIn, Numeral.isWritable_of_u64 lowOut highOut]
    · refine settles_ofExcept intact (telling_ok _) fun fill made => ?_
      cases made
      exact ⟨p, held, priced⟩

theorem deposit_settles (intact : World.Intact legible first w) (pool : Text) (amountA : Int)
    (amountB : Option Int) (givenA : legible → Numeral.isWritable amountA = true)
    (givenB : legible → ∀ b, amountB = some b → Numeral.isWritable b = true) :
    Settles legible first w (deposit kind (.text pool) amountA amountB) fun minted =>
      legible → Numeral.isWritable minted = true := by
  refine settles_find_bind intact fun v here => settles_check_bind intact ?_
  refine settles_onPool_bind intact here (fun p => p.deposit_upholds _ givenA givenB)
    (fun p held => ?_) fun p d after held granted intact => ?_
  · rw [PoolStep.deposit_ends]
    exact telling_bind (Pool.grant_worded rfl).telling fun d _ => (p.room_worded amountA d).telling
  · rw [PoolStep.deposit_ends] at granted
    obtain ⟨_, granted, room⟩ := Except.of_bind_ok granted
    obtain rfl := Pool.of_room_ok room
    have granted := Pool.of_grant_ok granted
    refine settles_bind (settles_log intact _ _ fun read => ?_) fun _ _ intact _ =>
      settles_done rfl intact fun read => granted.minted_isWritable (givenA read)
    simp only [Json.fieldsWritable, Json.isWritable, toJson_int, Bool.and_self, givenA read,
      granted.amountB_isWritable (givenB read), granted.minted_isWritable (givenA read)]

theorem withdraw_settles (intact : World.Intact legible first w) (pool : Text) (amountA : Int) :
    Settles legible first w (withdraw kind (.text pool) amountA) fun outs =>
      legible → Numeral.isWritable outs.1 = true := by
  have reserves := intact.reserves
  refine settles_find_bind intact fun v here => settles_check_bind intact ?_
  refine settles_onPool_bind intact here (fun p => p.withdraw_upholds _)
    (fun p held => (p.withdraw_worded amountA).telling) fun p d after held paidOut intact => ?_
  have shown (read : legible) : Numeral.isWritable d.burned = true ∧
      Numeral.isWritable d.outA = true ∧ Numeral.isWritable d.outB = true := by
    rcases PoolStep.withdraw_outcome p amountA with ⟨f, done⟩ | ⟨burned, outA, outB, paid, done⟩
    · rw [done] at paidOut
      cases paidOut
    · rw [done] at paidOut
      cases paidOut
      obtain ⟨writableA, writableB⟩ := reserves read kind (.text pool) p held
      exact Pool.withdrawn_isWritable ⟨writableA, writableB⟩ paid
  refine settles_bind (settles_log intact _ _ fun read => ?_) fun _ _ intact _ =>
    settles_done rfl intact fun read => (shown read).2.1
  simp only [Json.fieldsWritable, Json.isWritable, toJson_int, Bool.and_self, shown read]

end Trade

end

end TradingEngine
