import TradingEngine.Proofs.Strategy.Leg

/-! # Calls that are made again

A call that a paper venue has answered is answered alike wherever the venues, the settings and the
halt switch are the same, whatever the journal holds by then. A swap need not ask for its least
output again. A call that is refused has changed no venue.
-/

namespace TradingEngine

open Engine Quantity

variable {ν α β : Type}

/-! ### On worlds that differ in their journals -/

theorem World.Journalled.setPool {w other : World ν} (h : w.Journalled other) (kind : VenueKind)
    (key : Key) (p : Pool ν) : (w.setPool kind key p).Journalled (other.setPool kind key p) := by
  have venues : (other.setPool kind key p).venues = (w.setPool kind key p).venues := by
    simp only [World.setPool, h.venues]
    split <;> simp [h.venues]
  have here := World.setPool_traded kind key p w
  have there := World.setPool_traded kind key p other
  exact ⟨there.settings.trans (h.settings.trans here.settings.symm),
    there.clock.trans (h.clock.trans here.clock.symm),
    there.halt.trans (h.halt.trans here.halt.symm),
    there.bound.trans (h.bound.trans here.bound.symm),
    there.threshold.trans (h.threshold.trans here.threshold.symm), venues⟩

namespace Engine

/-- Where the first operation succeeds, the second one does so too, with the same result and the
    same effect, on any world that differs from that of the first in its journal only. -/
def Repeats (first second : Engine ν α) : Prop :=
  ∀ w other a after, w.Journalled other → first.result w = (.ok a, after) →
    ∃ again, second.result other = (.ok a, again) ∧ after.Journalled again

theorem repeats_ofExcept (r : Except Fault α) : Repeats (ofExcept r : Engine ν α) (ofExcept r) := by
  intro w other a after same ended
  rw [result_ofExcept] at ended ⊢
  obtain ⟨rfl, rfl⟩ := Prod.mk.inj ended
  exact ⟨other, rfl, same⟩

theorem repeats_ofBreakdown (r : Except Breakdown α) :
    Repeats (ofBreakdown r : Engine ν α) (ofBreakdown r) := by
  cases r with
  | ok a => exact repeats_ofExcept (.ok a)
  | error b => exact repeats_ofExcept (.error (.breakdown b))

theorem repeats_pure (a : α) : Repeats (pure a : Engine ν α) (pure a) :=
  repeats_ofExcept (.ok a)

theorem repeats_bind {first second : Engine ν α} {next again : α → Engine ν β}
    (h : Repeats first second) (rest : ∀ a, Repeats (next a) (again a)) :
    Repeats (first >>= next) (second >>= again) := by
  intro w other b after same ended
  obtain ⟨a, between, reached, ended⟩ := of_bind_ok ended
  obtain ⟨midway, reached, same⟩ := h w other a between same reached
  obtain ⟨last, ended, same⟩ := rest a between midway b after same ended
  refine ⟨last, ?_, same⟩
  rw [result_bind, reached]
  exact ended

theorem repeats_log (level : Level) (event : Text) (fields : Fields) :
    Repeats (log level event fields : Engine ν Unit) (log level event fields) := by
  intro w other _ after same ended
  rw [result_log] at ended ⊢
  cases written : w.journal.write level event fields with
  | error b =>
      rw [written] at ended
      cases ended
  | ok journal =>
      rw [written] at ended
      cases ended
      obtain ⟨again, rewritten⟩ := Journal.write_again same.bound same.threshold written
      rw [rewritten]
      refine ⟨_, rfl, same.settings, same.clock, same.halt, ?_, ?_, same.venues⟩
      · exact (Journal.bound_write rewritten).trans
          (same.bound.trans (Journal.bound_write written).symm)
      · exact (Journal.threshold_write rewritten).trans
          (same.threshold.trans (Journal.threshold_write written).symm)

theorem repeats_check : Repeats (HaltSwitch.check : Engine ν Unit) HaltSwitch.check := by
  intro w other _ after same ended
  rw [HaltSwitch.result_check] at ended ⊢
  rw [same.halt]
  split at ended
  · cases ended
  · rename_i running
    cases ended
    rw [if_neg running]
    exact ⟨other, rfl, same⟩

end Engine

/-- Every registered venue is a paper venue. -/
def World.AllPaper (w : World ν) : Prop :=
  ∀ kind venue, Table.get? kind w.venues = some venue → ∃ v, venue = .paper v

theorem World.AllPaper.of_venues {w after : World ν} (paper : w.AllPaper)
    (same : after.venues = w.venues) : after.AllPaper := by
  intro kind venue
  rw [same]
  exact paper kind venue

/-- An operation between these worlds has put no other venue in the place of a paper venue. -/
def World.KeepsPaper (w after : World ν) : Prop := w.AllPaper → after.AllPaper

instance : Frame (World.KeepsPaper (ν := ν)) where
  refl _ := id
  trans h k paper := k (h paper)

theorem Engine.Within.keepsPaper {op : Engine ν α} (h : Within World.Noted op) :
    Within World.KeepsPaper op := fun w paper => paper.of_venues (h w).venues

theorem Registry.store_keepsPaper (kind : VenueKind) (v : PaperVenue ν) :
    Within World.KeepsPaper (store kind (.paper v)) := by
  intro w paper other venue found
  change Table.get? other (Table.put kind (.paper v) w.venues) = some venue at found
  rw [Table.get?_put] at found
  split at found
  · exact ⟨v, (Option.some.inj found).symm⟩
  · exact paper other venue found

theorem Trade.onPool_keepsPaper (kind : VenueKind) (v : PaperVenue ν) (name : Name)
    (step : PoolStep ν α) : Within World.KeepsPaper (onPool kind v name step) :=
  within_bind (within_ofBreakdown _) fun _ => within_bind (within_ofExcept _) fun _ =>
    within_bind (Registry.store_keepsPaper _ _) fun _ => within_ofExcept _

namespace Registry

variable {kind : VenueKind} {shown : Text} {w after : World ν}

/-- What is kept by a call on any paper venue is kept by a call on whatever is registered. -/
theorem keepsPaper_find {next : Venue ν → Engine ν α} (paper : w.AllPaper)
    (rest : ∀ v, Within World.KeepsPaper (next (.paper v))) :
    ((find kind shown >>= next).result w).2.AllPaper := by
  rw [result_bind, result_find]
  cases here : Table.get? kind w.venues with
  | none => exact paper
  | some venue =>
      obtain ⟨v, rfl⟩ := paper kind venue here
      exact rest v w paper

theorem of_find_ok {next : Venue ν → Engine ν α} {a : α} (paper : w.AllPaper)
    (ended : (find kind shown >>= next).result w = (.ok a, after)) :
    ∃ v, Table.get? kind w.venues = some (.paper v) ∧
      (next (.paper v)).result w = (.ok a, after) := by
  rw [result_bind, result_find] at ended
  cases here : Table.get? kind w.venues with
  | none =>
      rw [here] at ended
      cases ended
  | some venue =>
      obtain ⟨v, rfl⟩ := paper kind venue here
      rw [here] at ended
      exact ⟨v, rfl, ended⟩

end Registry

/-! ### Refusals -/

namespace Engine

/-- An operation that may break down but never ends in a failure. -/
def Unfailing (op : Engine ν α) : Prop :=
  ∀ w e after, op.result w ≠ (.error (.failure e), after)

theorem unfailing_pure (a : α) : Unfailing (pure a : Engine ν α) := by
  intro w e after failed
  cases failed

theorem unfailing_log (level : Level) (event : Text) (fields : Fields)
    {next : Unit → Engine ν α} (rest : Unfailing (next ())) :
    Unfailing (log level event fields >>= next) := by
  intro w e after failed
  rw [result_bind, result_log] at failed
  cases written : w.journal.write level event fields with
  | error b =>
      rw [written] at failed
      cases failed
  | ok journal =>
      rw [written] at failed
      exact rest _ _ _ failed

/-- An operation that changes nothing but the journal of a world if it ends in a failure there. -/
def Refuses (w : World ν) (op : Engine ν α) : Prop :=
  ∀ e after, op.result w = (.error (.failure e), after) → w.Journalled after

variable {w : World ν}

theorem refuses_ofExcept (r : Except Fault α) {next : α → Engine ν β}
    (rest : ∀ a, Refuses w (next a)) : Refuses w (ofExcept r >>= next) := by
  intro e after failed
  rw [result_bind, result_ofExcept] at failed
  cases r with
  | ok a => exact rest a e after failed
  | error f =>
      cases failed
      exact Frame.refl w

theorem refuses_check {next : Unit → Engine ν α} (rest : Refuses w (next ())) :
    Refuses w (HaltSwitch.check >>= next) := by
  intro e after failed
  rw [HaltSwitch.result_check_bind] at failed
  split at failed
  · cases failed
    exact ⟨rfl, rfl, rfl, rfl, rfl, rfl⟩
  · exact rest e after failed

theorem refuses_find {kind : VenueKind} {shown : Text} {next : Venue ν → Engine ν α}
    (paper : w.AllPaper)
    (rest : ∀ v, Table.get? kind w.venues = some (.paper v) → Refuses w (next (.paper v))) :
    Refuses w (Registry.find kind shown >>= next) := by
  intro e after failed
  rw [result_bind, Registry.result_find] at failed
  cases here : Table.get? kind w.venues with
  | none =>
      rw [here] at failed
      obtain ⟨_, rfl⟩ := Prod.mk.inj failed
      exact Frame.refl w
  | some venue =>
      obtain ⟨v, rfl⟩ := paper kind venue here
      rw [here] at failed
      exact rest v here e after failed

end Engine

namespace Trade

variable {kind : VenueKind} {name : Name} {w : World ν}

/-- A step that leaves its pool alone where it fails, with nothing behind it that fails. -/
theorem refuses_onPool {v : PaperVenue ν} (here : Table.get? kind w.venues = some (.paper v))
    {step : PoolStep ν α} (kept : ∀ p f q, step.result p = (.error f, q) → q = p)
    {rest : α → Engine ν β} (unfailing : ∀ a, Unfailing (rest a)) :
    Refuses w (onPool kind v name step >>= rest) := by
  intro e after failed
  cases named : Key.ofName name with
  | error b =>
      rw [onPool, named] at failed
      cases failed
  | ok key =>
      cases held : Table.get? key v.pools with
      | none =>
          rw [result_bind, result_onPool_missing named held] at failed
          obtain rfl : w = after := congrArg Prod.snd failed
          exact Frame.refl w
      | some p =>
          rw [result_bind, result_onPool here named held] at failed
          cases taken : step.result p with
          | mk r q =>
              rw [taken] at failed
              cases r with
              | ok a => exact absurd failed (unfailing a _ _ _)
              | error f =>
                  obtain rfl := kept p f q taken
                  cases failed
                  rw [World.setPool_self ((World.pool?_eq here).trans held)]
                  exact Frame.refl w

theorem repeats_store (kind : VenueKind) (venue : Venue ν) :
    Repeats (Registry.store kind venue) (Registry.store kind venue) := by
  intro w other _ after same ended
  cases ended
  refine ⟨_, rfl, same.settings, same.clock, same.halt, same.bound, same.threshold, ?_⟩
  exact congrArg (Table.put kind venue) same.venues

/-- A step on a pool is repeated by any that agrees with it where it succeeds. -/
theorem repeats_onPool {v : PaperVenue ν} {step again : PoolStep ν α}
    (agree : ∀ p a q, step.result p = (.ok a, q) → again.result p = (.ok a, q)) :
    Repeats (onPool kind v name step) (onPool kind v name again) := by
  refine repeats_bind (repeats_ofBreakdown _) fun key =>
    repeats_bind (repeats_ofExcept _) fun p => ?_
  cases taken : step.result p with
  | mk r q =>
      have first : step.run.run p = (r, q) := taken
      cases r with
      | error f =>
          intro w other a after same ended
          simp only [first] at ended
          obtain ⟨_, _, _, ended⟩ := of_bind_ok ended
          cases ended
      | ok a =>
          have second : again.run.run p = (.ok a, q) := agree p a q taken
          simp only [first, second]
          exact repeats_bind (repeats_store _ _) fun _ => repeats_ofExcept _

end Trade

/-! ### Swaps and withdrawals -/

theorem Guard.slippage_eq_ok_iff {s : Settings Int} {bps n : Int} :
    Guard.slippage s bps = .ok n ↔
      n = bps ∧ (0 ≤ bps ∧ bps ≤ bpsWhole) ∧ bps ≤ s.maxSlippageBps := by
  simp only [Guard.slippage, Guard.bps, whole?_int, held_int, lt_int, Except.ok_bind]
  by_cases share : 0 ≤ bps ∧ bps ≤ bpsWhole
  · have inside : (decide (bps < 0) || decide (bps > bpsWhole)) = false := by
      simp only [Bool.or_eq_false_iff, decide_eq_false_iff_not]
      omega
    rw [inside]
    simp only [Bool.false_eq_true, if_false, Except.ok_bind]
    by_cases above : s.maxSlippageBps < bps
    · rw [decide_eq_true above, if_pos rfl]
      exact ⟨fun allowed => (nomatch allowed), fun h => absurd h.2.2 (Int.not_le.mpr above)⟩
    · rw [decide_eq_false above, if_neg Bool.false_ne_true]
      exact ⟨fun allowed => ⟨(Except.ok.inj allowed).symm, share, Int.not_lt.mp above⟩,
        fun h => congrArg Except.ok h.1.symm⟩
  · have outside : (decide (bps < 0) || decide (bps > bpsWhole)) = true := by
      simp only [Bool.or_eq_true, decide_eq_true_eq]
      omega
    rw [outside, if_pos rfl]
    exact ⟨fun allowed => (nomatch allowed), fun h => absurd h.2.1 share⟩

/-- Where some slippage is allowed, none is. -/
theorem Guard.slippage_zero {s : Settings Int} {bps n : Int}
    (allowed : Guard.slippage s bps = .ok n) : Guard.slippage s 0 = .ok 0 := by
  obtain ⟨_, ⟨nonneg, _⟩, capped⟩ := slippage_eq_ok_iff.mp allowed
  exact slippage_eq_ok_iff.mpr ⟨rfl, ⟨Int.le_refl 0, by decide⟩, Int.le_trans nonneg capped⟩

namespace PoolStep

/-- A swap that filled fills alike without a least output. -/
theorem swap_unbounded {p q : Pool Int} {token : Name} {amountIn least slippageBps out : Int}
    (filled : (swap token amountIn (some least) slippageBps).result p = (.ok out, q)) :
    (swap token amountIn (some 0) 0).result p = (.ok out, q) := by
  rw [result_swap] at filled ⊢
  cases sold : p.sale token amountIn (some least) slippageBps with
  | error f =>
      rw [sold] at filled
      cases filled
  | ok paid =>
      rw [sold] at filled
      obtain ⟨quoted, fits, _⟩ := Pool.sale_eq sold
      have again : p.sale token amountIn (some 0) 0 = .ok paid := by
        have nonneg := (Pool.quote_bounds quoted).2.1
        rw [Pool.sale, quoted, Except.ok_bind]
        change (Guard.minimumOut paid 0 >>= fun _ => _) = _
        rw [Guard.minimumOut_of_le nonneg, Except.ok_bind, Checked.toU64_of_le fits]
        rfl
      rw [again]
      exact filled

theorem kept_of_swap_failed {p q : Pool Int} {token : Name} {amountIn slippageBps : Int}
    {minimumOut : Option Int} {f : Fault}
    (failed : (swap token amountIn minimumOut slippageBps).result p = (.error f, q)) : q = p := by
  rw [result_swap] at failed
  cases sold : p.sale token amountIn minimumOut slippageBps with
  | error g =>
      rw [sold] at failed
      cases failed
      rfl
  | ok paid =>
      rw [sold] at failed
      cases failed

theorem kept_of_withdraw_failed {p q : Pool Int} {amountA : Int} {f : Fault}
    (failed : (withdraw amountA).result p = (.error f, q)) : q = p := by
  rcases withdraw_outcome p amountA with ⟨g, done⟩ | ⟨_, _, _, _, done⟩
  · rw [done] at failed
    cases failed
    rfl
  · rw [done] at failed
    cases failed

end PoolStep

namespace Trade

variable {kind : VenueKind} {name token : Name} {w other after : World Int} {amount : Int}

/-- A swap that filled fills alike, for whatever least output, where only the journal differs. -/
theorem swap_again {least slippageBps : Int} {fill : Fill} (paper : w.AllPaper)
    (same : w.Journalled other)
    (filled : (swap kind name token amount (some least) slippageBps).result w =
      (.ok fill, after)) :
    ∃ again, (swap kind name token amount (some 0) 0).result other = (.ok fill, again) ∧
      after.Journalled again := by
  obtain ⟨v, here, filled⟩ := Registry.of_find_ok paper filled
  rw [swap, Registry.result_find_bind (same.venues ▸ here)]
  refine repeats_bind repeats_check (fun _ => ?_) w other fill after same filled
  intro w other fill after same filled
  obtain ⟨s, _, held, filled⟩ := of_bind_ok filled
  cases held
  obtain ⟨bps, _, guarded, filled⟩ := of_bind_ok filled
  rw [result_ofExcept] at guarded
  obtain ⟨allowed, rfl⟩ := Prod.mk.inj guarded
  rw [result_bind, result_settings, same.settings]
  dsimp only
  rw [Guard.slippage_zero allowed]
  refine repeats_bind (repeats_onPool fun _ _ _ => PoolStep.swap_unbounded) (fun out => ?_)
    w other fill after same filled
  exact repeats_bind (repeats_log _ _ _) fun _ => repeats_ofExcept _

theorem withdraw_again {outs : Int × Int} (paper : w.AllPaper) (same : w.Journalled other)
    (paid : (withdraw kind name amount).result w = (.ok outs, after)) :
    ∃ again, (withdraw kind name amount).result other = (.ok outs, again) ∧
      after.Journalled again := by
  obtain ⟨v, here, paid⟩ := Registry.of_find_ok paper paid
  rw [withdraw, Registry.result_find_bind (same.venues ▸ here)]
  refine repeats_bind repeats_check (fun _ => ?_) w other outs after same paid
  exact repeats_bind (repeats_onPool fun _ _ _ done => done) fun done =>
    repeats_bind (repeats_log _ _ _) fun _ => repeats_pure _

theorem swap_paper (paper : w.AllPaper) (kind : VenueKind) (name token : Name) (amount : Int)
    (minimumOut : Option Int) (slippageBps : Int) :
    ((swap kind name token amount minimumOut slippageBps).result w).2.AllPaper := by
  refine Registry.keepsPaper_find paper fun v => ?_
  refine within_bind HaltSwitch.check_noted.keepsPaper fun _ => within_bind within_settings fun _ =>
    within_bind (within_ofExcept _) fun _ => within_bind (onPool_keepsPaper _ _ _ _) fun out => ?_
  exact (filled_noted _ _ _ _ _).keepsPaper

theorem deposit_paper (paper : w.AllPaper) (kind : VenueKind) (name : Name) (amountA : Int)
    (amountB : Option Int) : ((deposit kind name amountA amountB).result w).2.AllPaper := by
  refine Registry.keepsPaper_find paper fun v => ?_
  refine within_bind HaltSwitch.check_noted.keepsPaper fun _ =>
    within_bind (onPool_keepsPaper _ _ _ _) fun done => ?_
  exact within_bind (log_noted _ _ _ (by decide)).keepsPaper fun _ => within_pure _

theorem withdraw_paper (paper : w.AllPaper) (kind : VenueKind) (name : Name) (amount : Int) :
    ((withdraw kind name amount).result w).2.AllPaper := by
  refine Registry.keepsPaper_find paper fun v => ?_
  refine within_bind HaltSwitch.check_noted.keepsPaper fun _ =>
    within_bind (onPool_keepsPaper _ _ _ _) fun done => ?_
  exact within_bind (log_noted _ _ _ (by decide)).keepsPaper fun _ => within_pure _

/-- A swap that is refused has changed no venue. -/
theorem swap_refuses (paper : w.AllPaper) (minimumOut : Option Int) (slippageBps : Int) :
    Refuses w (swap kind name token amount minimumOut slippageBps) := by
  refine refuses_find paper fun v here => refuses_check ?_
  refine refuses_ofExcept (Guard.slippage w.settings slippageBps) fun _ => ?_
  exact refuses_onPool here (fun _ _ _ => PoolStep.kept_of_swap_failed)
    fun out => unfailing_log _ _ _ (unfailing_pure _)

theorem withdraw_refuses (paper : w.AllPaper) : Refuses w (withdraw kind name amount) := by
  refine refuses_find paper fun v here => refuses_check ?_
  exact refuses_onPool here (fun _ _ _ => PoolStep.kept_of_withdraw_failed)
    fun done => unfailing_log _ _ _ (unfailing_pure _)

end Trade

end TradingEngine
