import TradingEngine.Proofs.Journal
import TradingEngine.Proofs.Operation
import TradingEngine.Strategy.Arbitrage
import TradingEngine.Strategy.Rebalance

/-! # What operations leave alone

Two frames, one inside the other. An operation that only takes notes changes the journal and nothing
else, and journals no dispatch; one that trades may change the registered venues besides. Both
frames compose, so an operation stays within one if each of its links does.
-/

namespace TradingEngine

variable {ν α β : Type}

/-- What holds of every chain of steps if it holds of each of them. -/
class Frame {σ : Type} (R : σ → σ → Prop) : Prop where
  refl (s : σ) : R s s
  trans {a b c : σ} : R a b → R b c → R a c

/-- The second world is the first after some trading: venues and journal may differ, but no dispatch
    was journalled. -/
structure World.Traded (w after : World ν) : Prop where
  settings : after.settings = w.settings
  clock : after.clock = w.clock
  halt : after.halt = w.halt
  bound : after.journal.bound = w.journal.bound
  threshold : after.journal.threshold = w.journal.threshold
  dispatches : after.journal.dispatches = w.journal.dispatches

/-- The second world is the first after some notes were taken. -/
structure World.Noted (w after : World ν) : Prop extends World.Traded w after where
  venues : after.venues = w.venues

/-- The second world is the first with more in its journal, dispatches among it or not. -/
structure World.Journalled (w after : World ν) : Prop where
  settings : after.settings = w.settings
  clock : after.clock = w.clock
  halt : after.halt = w.halt
  bound : after.journal.bound = w.journal.bound
  threshold : after.journal.threshold = w.journal.threshold
  venues : after.venues = w.venues

theorem World.Noted.journalled {w after : World ν} (h : w.Noted after) : w.Journalled after :=
  ⟨h.settings, h.clock, h.halt, h.bound, h.threshold, h.venues⟩

theorem World.Journalled.symm {w after : World ν} (h : w.Journalled after) : after.Journalled w :=
  ⟨h.settings.symm, h.clock.symm, h.halt.symm, h.bound.symm, h.threshold.symm, h.venues.symm⟩

instance : Frame (World.Traded (ν := ν)) where
  refl _ := ⟨rfl, rfl, rfl, rfl, rfl, rfl⟩
  trans h k := ⟨k.settings.trans h.settings, k.clock.trans h.clock, k.halt.trans h.halt,
    k.bound.trans h.bound, k.threshold.trans h.threshold, k.dispatches.trans h.dispatches⟩

instance : Frame (World.Noted (ν := ν)) where
  refl _ := ⟨Frame.refl _, rfl⟩
  trans h k := ⟨Frame.trans h.toTraded k.toTraded, k.venues.trans h.venues⟩

instance : Frame (World.Journalled (ν := ν)) where
  refl _ := ⟨rfl, rfl, rfl, rfl, rfl, rfl⟩
  trans h k := ⟨k.settings.trans h.settings, k.clock.trans h.clock, k.halt.trans h.halt,
    k.bound.trans h.bound, k.threshold.trans h.threshold, k.venues.trans h.venues⟩

namespace Engine

/-- Whatever the world before an operation, the world after it is in this relation to it, also where
    the operation ends in a fault. -/
def Within (R : World ν → World ν → Prop) (op : Engine ν α) : Prop := ∀ w, R w (op.result w).2

section

variable {R : World ν → World ν → Prop} [Frame R]

theorem within_pure (a : α) : Within R (pure a : Engine ν α) := fun w => Frame.refl w

theorem within_ofExcept (r : Except Fault α) : Within R (ofExcept r : Engine ν α) := by
  intro w
  rw [result_ofExcept]
  exact Frame.refl w

theorem within_ofBreakdown (r : Except Breakdown α) :
    Within R (ofBreakdown r : Engine ν α) := by
  intro w
  cases r <;> exact Frame.refl w

theorem within_fail (cause : Cause) : Within R (fail cause : Engine ν α) := fun w => Frame.refl w

theorem within_fault (f : Fault) : Within R (fault f : Engine ν α) := fun w => Frame.refl w

theorem within_settings : Within R (settings : Engine ν (Settings ν)) := fun w => Frame.refl w

theorem within_get : Within R (get : Engine ν (World ν)) := fun w => Frame.refl w

theorem within_bind {op : Engine ν α} {next : α → Engine ν β} (first : Within R op)
    (rest : ∀ a, Within R (next a)) : Within R (op >>= next) := by
  intro w
  rw [result_bind]
  have h := first w
  cases ended : op.result w with
  | mk r after =>
      rw [ended] at h
      cases r with
      | ok a => exact Frame.trans h (rest a after)
      | error f => exact h

theorem within_mapM {f : α → Engine ν β} (each : ∀ a, Within R (f a)) (xs : List α) :
    Within R (xs.mapM f) := by
  induction xs with
  | nil =>
      rw [List.mapM_nil]
      exact within_pure _
  | cons x xs ih =>
      rw [List.mapM_cons]
      exact within_bind (each x) fun _ => within_bind ih fun _ => within_pure _

theorem within_filterMapM {f : α → Engine ν (Option β)} (each : ∀ a, Within R (f a))
    (xs : List α) : Within R (xs.filterMapM f) := by
  induction xs with
  | nil =>
      rw [List.filterMapM_nil]
      exact within_pure _
  | cons x xs ih =>
      rw [List.filterMapM_cons]
      refine within_bind (each x) fun found => ?_
      cases found with
      | none => exact ih
      | some b => exact within_bind ih fun _ => within_pure _

theorem within_foldlM {f : β → α → Engine ν β} (each : ∀ b a, Within R (f b a)) (b : β)
    (xs : List α) : Within R (xs.foldlM f b) := by
  induction xs generalizing b with
  | nil => exact within_pure b
  | cons x xs ih =>
      rw [List.foldlM_cons]
      exact within_bind (each b x) fun c => ih c

/-- What stands behind a fault is never reached. -/
theorem within_fault_bind (f : Fault) (next : α → Engine ν β) :
    Within R ((fault f : Engine ν α) >>= next) := fun w => Frame.refl w

theorem within_fail_bind (cause : Cause) (next : α → Engine ν β) :
    Within R ((fail cause : Engine ν α) >>= next) := fun w => Frame.refl w

end

theorem Within.of_ended {R : World ν → World ν → Prop} {op : Engine ν α} {w after : World ν}
    {r : Except Fault α} (h : Within R op) (ended : op.result w = (r, after)) : R w after := by
  have kept := h w
  rw [ended] at kept
  exact kept

theorem within_attempt {R : World ν → World ν → Prop} {op : Engine ν α} (h : Within R op) :
    Within R op.attempt := fun w => h w

theorem Within.traded {op : Engine ν α} (h : Within World.Noted op) : Within World.Traded op :=
  fun w => (h w).toTraded

theorem count_noted (tally : Tally) : Within World.Noted (count tally : Engine ν Unit) :=
  fun _ => ⟨⟨rfl, rfl, rfl, rfl, rfl, rfl⟩, rfl⟩

theorem log_noted (level : Level) (event : Text) (fields : Fields)
    (other : event ≠ Entry.dispatchEvent) :
    Within World.Noted (log level event fields : Engine ν Unit) := by
  intro w
  rw [result_log]
  cases h : w.journal.write level event fields with
  | error b => exact Frame.refl w
  | ok journal =>
      exact ⟨⟨rfl, rfl, rfl, Journal.bound_write h, Journal.threshold_write h,
        Journal.dispatches_write_other h other⟩, rfl⟩

theorem log_journalled (level : Level) (event : Text) (fields : Fields) :
    Within World.Journalled (log level event fields : Engine ν Unit) := by
  intro w
  rw [result_log]
  cases h : w.journal.write level event fields with
  | error b => exact Frame.refl w
  | ok journal =>
      exact ⟨rfl, rfl, rfl, Journal.bound_write h, Journal.threshold_write h, rfl⟩

end Engine

open Engine

theorem HaltSwitch.check_noted : Within World.Noted (check : Engine ν Unit) := by
  intro w
  rw [result_check]
  split
  · exact ⟨⟨rfl, rfl, rfl, rfl, rfl, rfl⟩, rfl⟩
  · exact Frame.refl w

theorem HaltSwitch.isActive_noted : Within World.Noted (isActive : Engine ν Bool) :=
  within_bind within_get fun _ => within_pure _

theorem Registry.find_noted (kind : VenueKind) (shown : Text) :
    Within World.Noted (find kind shown : Engine ν (Venue ν)) := by
  intro w
  rw [result_find]
  cases Table.get? kind w.venues <;> exact Frame.refl w

theorem Registry.require_noted (kind : VenueKind) :
    Within World.Noted (require kind : Engine ν Unit) :=
  within_bind (find_noted kind kind.shown) fun _ => within_pure ()

theorem Registry.store_traded (kind : VenueKind) (venue : Venue ν) :
    Within World.Traded (store kind venue : Engine ν Unit) :=
  fun _ => ⟨rfl, rfl, rfl, rfl, rfl, rfl⟩

variable [Quantity ν]

theorem RiskLimits.allow_noted (risk : RiskLimits) (metrics : Metrics ν) (size : ν) :
    Within World.Noted (risk.allow metrics size) := by
  refine within_bind (within_ofExcept _) fun broken => ?_
  cases broken with
  | none => exact within_pure true
  | some limit =>
      cases limit <;>
        exact within_bind (count_noted _) fun _ =>
          within_bind (log_noted _ _ _ (by decide)) fun _ => within_pure false

theorem PriceQuote.validate_noted (limits : PriceLimits ν) (maxStaleness maxConfidence : Option ν)
    (now : ν) (q : PriceQuote) :
    Within World.Noted (q.validate limits maxStaleness maxConfidence now) := by
  refine within_bind within_settings fun s => within_bind (within_ofExcept _) fun stale =>
    within_bind (within_ofExcept _) fun wide => within_bind (within_ofExcept _) fun found => ?_
  cases found with
  | none => exact within_ofExcept _
  | some cause =>
      dsimp only
      split
      · exact within_fault_bind _ _
      · exact within_bind (count_noted _) fun _ => within_bind (within_ofExcept _) fun _ =>
          within_bind (log_noted _ _ _ (by decide)) fun _ => within_fail _

theorem PriceQuote.validateAll_noted (limits : PriceLimits ν) (maxStaleness maxConfidence : Option ν)
    (now : ν) (quotes : List PriceQuote) :
    Within World.Noted (validateAll limits maxStaleness maxConfidence now quotes) :=
  within_foldlM (fun _ q => within_bind (q.validate_noted _ _ _ _) fun _ => within_pure _) _ _

theorem PoolSource.reserves_noted (token : Name) (source : PoolSource ν) :
    Within World.Noted (source.reserves token) := by
  cases source with
  | snapshot reserves => exact within_pure reserves
  | loose record => exact within_ofExcept _
  | live venue pool =>
      refine within_bind within_get fun w => ?_
      split
      · exact within_pure _
      · exact within_ofExcept _
      · exact within_fault _

/-! ### Searching and planning -/

theorem Engine.orClock_noted (now : Option ν) : Within World.Noted (orClock now) := by
  cases now with
  | some given => exact within_pure given
  | none =>
      exact within_bind within_get fun _ => within_bind (within_ofBreakdown _) fun _ =>
        within_pure _

theorem RouteSearch.tryKind_noted (search : RouteSearch ν) (prices : List (VenueKind × ν))
    (minProfitBps : ν) (pair : TokenPair) (now : ν) (kind : RouteKind) :
    Within World.Noted (search.tryKind prices minProfitBps pair now kind) := by
  unfold tryKind
  split
  · refine within_bind (within_ofExcept _) fun entry => within_bind (within_ofExcept _) fun exit =>
      within_bind (within_ofExcept _) fun profit => ?_
    cases profit with
    | none => exact within_pure none
    | some expected =>
        exact within_bind (within_ofExcept _) fun route => within_bind (count_noted _) fun _ =>
          within_bind (log_noted _ _ _ (by decide)) fun _ => within_pure _
  · exact within_bind (log_noted _ _ _ (by decide)) fun _ => within_pure none

theorem RouteSearch.find_noted (search : RouteSearch ν) (prices : List (VenueKind × ν))
    (minProfitBps : ν) (pair : TokenPair) (now : ν) :
    Within World.Noted (search.find prices minProfitBps pair now) :=
  within_filterMapM (search.tryKind_noted prices minProfitBps pair now) _

theorem Rebalance.compute_noted (current : List (Holder × ν)) (targets : List LiquidityTarget) :
    Within World.Noted (compute current targets) :=
  within_bind (within_ofExcept _) fun _ => within_bind (within_ofExcept _) fun _ =>
    within_bind (within_ofExcept _) fun _ => within_bind (within_ofExcept _) fun _ =>
      within_bind (log_noted _ _ _ (by decide)) fun _ => within_pure _

/-! ### Trading -/

namespace Trade

theorem quote_noted (kind : VenueKind) (pool token : Name) (amountIn : ν) :
    Within World.Noted (quote kind pool token amountIn) := by
  refine within_bind (Registry.find_noted _ _) fun venue => ?_
  cases venue <;> exact within_ofExcept _

omit [Quantity ν] in
theorem onPool_traded (kind : VenueKind) (v : PaperVenue ν) (pool : Name) (step : PoolStep ν α) :
    Within World.Traded (onPool kind v pool step) := by
  unfold onPool
  refine within_bind ?_ fun key => within_bind (within_ofExcept _) fun reserves =>
    within_bind (Registry.store_traded _ _) fun _ => within_ofExcept _
  cases Key.ofName pool <;> exact fun w => Frame.refl w

omit [Quantity ν] in
theorem onLoose_traded (kind : VenueKind) (v : LooseVenue) (pool : Name)
    (step : LooseRecord → Except Fault α × LooseRecord) :
    Within World.Traded (onLoose kind v pool step : Engine ν α) := by
  unfold onLoose
  refine within_bind ?_ fun key => within_bind (within_ofExcept _) fun reserves =>
    within_bind (Registry.store_traded _ _) fun _ => within_ofExcept _
  cases Key.ofName pool <;> exact fun w => Frame.refl w

omit [Quantity ν] in
theorem scriptedCall_traded (kind : VenueKind) (v : ScriptedVenue ν) :
    Within World.Traded (scriptedCall kind v) := by
  refine within_bind HaltSwitch.isActive_noted.traded fun active => ?_
  dsimp only
  split
  · exact within_bind (count_noted _).traded fun _ =>
      within_bind (log_noted _ _ _ (by decide)).traded fun _ => within_fail_bind _ _
  · split
    · exact within_bind (Registry.store_traded _ _) fun _ =>
        within_bind (log_noted _ _ _ (by decide)).traded fun _ => within_fault _
    · exact within_pure ()

theorem filled_noted (venue : VenueKind) (pool token : Name) (amountIn amountOut : ν) :
    Within World.Noted (filled venue pool token amountIn amountOut) :=
  within_bind (log_noted _ _ _ (by decide)) fun _ => within_ofExcept _

theorem swap_traded (kind : VenueKind) (pool token : Name) (amountIn : ν) (minimumOut : Option ν)
    (slippageBps : ν) :
    Within World.Traded (swap kind pool token amountIn minimumOut slippageBps) := by
  refine within_bind (Registry.find_noted _ _).traded fun venue => ?_
  cases venue with
  | paper v =>
      exact within_bind HaltSwitch.check_noted.traded fun _ => within_bind within_settings fun s =>
        within_bind (within_ofExcept _) fun _ => within_bind (onPool_traded _ _ _ _) fun _ =>
          (filled_noted _ _ _ _ _).traded
  | loose v =>
      exact within_bind HaltSwitch.check_noted.traded fun _ => within_bind within_settings fun s =>
        within_bind (within_ofExcept _) fun _ => within_bind (onLoose_traded _ _ _ _) fun _ =>
          within_bind (within_ofExcept _) fun _ => (filled_noted _ _ _ _ _).traded
  | scripted v =>
      refine within_bind (scriptedCall_traded _ _) fun _ => within_bind (within_ofExcept _)
        fun quoted => within_bind (within_ofExcept _) fun amountOut => ?_
      have atLeast (minimum : ν) := within_bind (R := World.Traded)
        (within_ofExcept (Guard.minimumOut amountOut minimum)) fun _ =>
          within_bind (Registry.store_traded kind (.scripted { v with
            calls := v.calls ++ [.swap pool token amountIn minimum slippageBps amountOut] }))
            fun _ => within_ofExcept (Fill.ofQuantities amountIn amountOut)
      cases minimumOut with
      | some least => exact within_bind (within_pure least) atLeast
      | none => exact within_bind (within_ofExcept _) atLeast

theorem deposit_traded (kind : VenueKind) (pool : Name) (amountA : ν) (amountB : Option ν) :
    Within World.Traded (deposit kind pool amountA amountB) := by
  refine within_bind (Registry.find_noted _ _).traded fun venue => ?_
  cases venue with
  | paper v =>
      exact within_bind HaltSwitch.check_noted.traded fun _ =>
        within_bind (onPool_traded _ _ _ _) fun _ =>
          within_bind (log_noted _ _ _ (by decide)).traded fun _ => within_pure _
  | loose v =>
      exact within_bind HaltSwitch.check_noted.traded fun _ =>
        within_bind (onLoose_traded _ _ _ _) fun _ =>
          within_bind (log_noted _ _ _ (by decide)).traded fun _ => within_ofExcept _
  | scripted v =>
      exact within_bind (scriptedCall_traded _ _) fun _ =>
        within_bind (Registry.store_traded _ _) fun _ => within_pure _

theorem withdraw_traded (kind : VenueKind) (pool : Name) (amountA : ν) :
    Within World.Traded (withdraw kind pool amountA) := by
  refine within_bind (Registry.find_noted _ _).traded fun venue => ?_
  cases venue with
  | paper v =>
      exact within_bind HaltSwitch.check_noted.traded fun _ =>
        within_bind (onPool_traded _ _ _ _) fun _ =>
          within_bind (log_noted _ _ _ (by decide)).traded fun _ => within_pure _
  | loose v =>
      exact within_bind HaltSwitch.check_noted.traded fun _ =>
        within_bind (onLoose_traded _ _ _ _) fun _ =>
          within_bind (log_noted _ _ _ (by decide)).traded fun _ =>
            within_bind (within_ofExcept _) fun _ => within_bind (within_ofExcept _) fun _ =>
              within_pure _
  | scripted v =>
      exact within_bind (scriptedCall_traded _ _) fun _ =>
        within_bind (Registry.store_traded _ _) fun _ => within_pure _

end Trade

end TradingEngine
