import TradingEngine.Proofs.Wording

/-! # What the journal does not decide

An operation that writes the journal and reads nothing of it ends in the same way whatever the
journal already holds: an entry is taken or refused for its own fields, for the bound ones and for
the threshold. Such an operation can be moved behind another one that takes notes. Validating quotes
and searching for routes are of this kind.
-/

namespace TradingEngine

open Engine Quantity

variable {ν α β : Type}

/-- Whether a write ends well does not depend on the entries that are there. -/
theorem Journal.write_same (level : Level) (event : Text) (fields : Fields) {j other : Journal}
    (bound : other.bound = j.bound) (threshold : other.threshold = j.threshold) :
    (∃ after again, j.write level event fields = .ok after ∧
      other.write level event fields = .ok again) ∨
    (j.write level event fields = .error .tooManyDigits ∧
      other.write level event fields = .error .tooManyDigits) := by
  cases here : j.write level event fields with
  | ok after =>
      obtain ⟨again, there⟩ := write_again bound threshold here
      exact .inl ⟨after, again, rfl, there⟩
  | error b =>
      cases of_write_error here
      cases there : other.write level event fields with
      | ok again =>
          obtain ⟨after, taken⟩ := write_again bound.symm threshold.symm there
          cases here.symm.trans taken
      | error b =>
          cases of_write_error there
          exact .inr ⟨rfl, rfl⟩

namespace Engine

/-- An operation that changes nothing but the journal, and ends in the same way from worlds that
    differ in nothing but their journals. -/
structure Steady (op : Engine ν α) : Prop where
  within : Within World.Journalled op
  same {w other : World ν} : w.Journalled other → (op.result w).1 = (op.result other).1

theorem steady_pure (a : α) : Steady (pure a : Engine ν α) := ⟨within_pure a, fun _ => rfl⟩

theorem steady_fail (cause : Cause) : Steady (fail cause : Engine ν α) :=
  ⟨within_fail cause, fun _ => rfl⟩

theorem steady_fault_bind (f : Fault) (next : α → Engine ν β) :
    Steady ((fault f : Engine ν α) >>= next) := ⟨within_fault_bind f next, fun _ => rfl⟩

theorem steady_ofExcept (r : Except Fault α) : Steady (ofExcept r : Engine ν α) where
  within := within_ofExcept r
  same _ := by rw [result_ofExcept, result_ofExcept]

theorem steady_settings : Steady (settings : Engine ν (Settings ν)) where
  within := within_settings
  same h := congrArg Except.ok h.settings.symm

theorem steady_count (tally : Tally) : Steady (count tally : Engine ν Unit) where
  within w := (count_noted tally w).journalled
  same _ := rfl

theorem steady_log (level : Level) (event : Text) (fields : Fields) :
    Steady (log level event fields : Engine ν Unit) where
  within := log_journalled level event fields
  same h := by
    rw [result_log, result_log]
    obtain ⟨_, _, here, there⟩ | ⟨here, there⟩ :=
      Journal.write_same level event fields h.bound h.threshold <;> rw [here, there]

theorem steady_bind {op : Engine ν α} {next : α → Engine ν β} (first : Steady op)
    (rest : ∀ a, Steady (next a)) : Steady (op >>= next) where
  within := within_bind first.within fun a => (rest a).within
  same {w other} h := by
    have ends := first.same h
    have left : (op.result w).2.Journalled (op.result other).2 :=
      Frame.trans (first.within w).symm (Frame.trans h (first.within other))
    rw [result_bind, result_bind]
    cases here : op.result w with
    | mk r after =>
        cases there : op.result other with
        | mk again elsewhere =>
            rw [here, there] at ends left
            cases ends
            cases r with
            | ok a => exact (rest a).same left
            | error f => rfl

theorem steady_foldlM {f : β → α → Engine ν β} (each : ∀ b a, Steady (f b a)) (b : β)
    (xs : List α) : Steady (xs.foldlM f b) := by
  induction xs generalizing b with
  | nil => exact steady_pure b
  | cons x xs ih =>
      rw [List.foldlM_cons]
      exact steady_bind (each b x) fun c => ih c

theorem steady_filterMapM {f : α → Engine ν (Option β)} (each : ∀ a, Steady (f a))
    (xs : List α) : Steady (xs.filterMapM f) := by
  induction xs with
  | nil =>
      rw [List.filterMapM_nil]
      exact steady_pure _
  | cons x xs ih =>
      rw [List.filterMapM_cons]
      refine steady_bind (each x) fun found => ?_
      cases found with
      | none => exact ih
      | some b => exact steady_bind ih fun _ => steady_pure _

end Engine

variable [Quantity ν]

theorem PriceQuote.validate_steady (limits : PriceLimits ν) (maxStaleness maxConfidence : Option ν)
    (now : ν) (q : PriceQuote) : Steady (q.validate limits maxStaleness maxConfidence now) := by
  refine steady_bind steady_settings fun s => steady_bind (steady_ofExcept _) fun stale =>
    steady_bind (steady_ofExcept _) fun wide => steady_bind (steady_ofExcept _) fun found => ?_
  cases found with
  | none => exact steady_ofExcept _
  | some cause =>
      dsimp only
      split
      · exact steady_fault_bind _ _
      · exact steady_bind (steady_count _) fun _ => steady_bind (steady_ofExcept _) fun _ =>
          steady_bind (steady_log _ _ _) fun _ => steady_fail _

theorem PriceQuote.validateAll_steady (limits : PriceLimits ν)
    (maxStaleness maxConfidence : Option ν) (now : ν) (quotes : List PriceQuote) :
    Steady (validateAll limits maxStaleness maxConfidence now quotes) :=
  steady_foldlM (fun _ q => steady_bind (q.validate_steady _ _ _ _) fun _ => steady_pure _) _ _

theorem RouteSearch.tryKind_steady (search : RouteSearch ν) (prices : List (VenueKind × ν))
    (minProfitBps : ν) (pair : TokenPair) (now : ν) (kind : RouteKind) :
    Steady (search.tryKind prices minProfitBps pair now kind) := by
  unfold tryKind
  split
  · refine steady_bind (steady_ofExcept _) fun entry => steady_bind (steady_ofExcept _) fun exit =>
      steady_bind (steady_ofExcept _) fun profit => ?_
    cases profit with
    | none => exact steady_pure none
    | some expected =>
        exact steady_bind (steady_ofExcept _) fun route => steady_bind (steady_count _) fun _ =>
          steady_bind (steady_log _ _ _) fun _ => steady_pure _
  · exact steady_bind (steady_log _ _ _) fun _ => steady_pure none

theorem RouteSearch.find_steady (search : RouteSearch ν) (prices : List (VenueKind × ν))
    (minProfitBps : ν) (pair : TokenPair) (now : ν) :
    Steady (search.find prices minProfitBps pair now) :=
  steady_filterMapM (search.tryKind_steady prices minProfitBps pair now) _

end TradingEngine
