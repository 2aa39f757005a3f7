import TradingEngine.Proofs.Except
import TradingEngine.Proofs.Frame

/-! # What is done before a trade

Before anything is traded an operation checks the halt switch, the limits and the registered venues.
It takes notes of that at most, and where it ends in a fault the fault carries no fill, since none
was made yet.
-/

namespace TradingEngine

open Engine Quantity

/-- The fill that a fault carries. -/
def Fault.entryFill? : Fault → Option Fill
  | .failure f => f.entryFill
  | _ => none

theorem Cause.entryFill?_fault (cause : Cause) : cause.fault.entryFill? = none := by
  unfold Cause.fault
  split <;> rfl

namespace Engine

variable {ν α β : Type}

/-- An operation that trades nothing: it takes notes, and its faults carry no fill. -/
structure Tradeless (op : Engine ν α) : Prop where
  noted : Within World.Noted op
  unfilled : ∀ w f, (op.result w).1 = .error f → f.entryFill? = none

theorem tradeless_bind {op : Engine ν α} {next : α → Engine ν β} (first : Tradeless op)
    (rest : ∀ a, Tradeless (next a)) : Tradeless (op >>= next) where
  noted := within_bind first.noted fun a => (rest a).noted
  unfilled w f h := by
    have unfilled := first.unfilled w
    rw [result_bind] at h
    cases ended : op.result w with
    | mk r after =>
        rw [ended] at h unfilled
        cases r with
        | ok a => exact (rest a).unfilled after f h
        | error g =>
            cases h
            exact unfilled _ rfl

theorem tradeless_pure (a : α) : Tradeless (pure a : Engine ν α) where
  noted := within_pure a
  unfilled _ _ h := by cases h

theorem tradeless_settings : Tradeless (settings : Engine ν (Settings ν)) where
  noted := within_settings
  unfilled _ _ h := by cases h

theorem tradeless_count (tally : Tally) : Tradeless (count tally : Engine ν Unit) where
  noted := count_noted tally
  unfilled _ _ h := by cases h

theorem tradeless_fail_bind (cause : Cause) (next : α → Engine ν β) :
    Tradeless ((fail cause : Engine ν α) >>= next) where
  noted := within_fail_bind cause next
  unfilled _ _ h := by
    cases h
    exact cause.entryFill?_fault

theorem tradeless_ofExcept {r : Except Fault α} (h : ∀ f, r = .error f → f.entryFill? = none) :
    Tradeless (ofExcept r : Engine ν α) where
  noted := within_ofExcept r
  unfilled w f ended := by
    rw [result_ofExcept] at ended
    exact h f ended

theorem tradeless_log (level : Level) (event : Text) (fields : Fields)
    (other : event ≠ Entry.dispatchEvent) :
    Tradeless (log level event fields : Engine ν Unit) where
  noted := log_noted level event fields other
  unfilled w f h := by
    rw [result_log] at h
    cases written : w.journal.write level event fields with
    | ok journal =>
        rw [written] at h
        cases h
    | error b =>
        rw [written] at h
        cases h
        rfl

end Engine

theorem HaltSwitch.check_tradeless {ν : Type} : Tradeless (check : Engine ν Unit) where
  noted := check_noted
  unfilled w f h := by
    rw [result_check] at h
    split at h
    · cases h
      exact Cause.entryFill?_fault _
    · cases h

theorem Registry.require_tradeless {ν : Type} (kind : VenueKind) :
    Tradeless (require kind : Engine ν Unit) where
  noted := require_noted kind
  unfilled w f h := by
    rw [require, result_bind, result_find] at h
    cases found : Table.get? kind w.venues with
    | none =>
        rw [found] at h
        cases h
        exact Cause.entryFill?_fault _
    | some venue =>
        rw [found] at h
        cases h

theorem RiskLimits.allow_tradeless (risk : RiskLimits) (metrics : Metrics Int) (size : Int) :
    Tradeless (risk.allow metrics size) := by
  have judged : ∀ f, risk.broken? metrics size = .error f → f.entryFill? = none := by
    intro f h
    simp only [broken?, lt_int, Except.ok_bind] at h
    split at h
    · cases h
    · split at h <;> cases h
  refine tradeless_bind (tradeless_ofExcept judged) fun broken => ?_
  cases broken with
  | none => exact tradeless_pure true
  | some limit =>
      cases limit <;>
        exact tradeless_bind (tradeless_count _) fun _ =>
          tradeless_bind (tradeless_log _ _ _ (by decide)) fun _ => tradeless_pure false

theorem entryFill?_of_refuse {α : Type} {cause : Cause} {f : Fault}
    (h : (refuse cause : Except Fault α) = .error f) : f.entryFill? = none := by
  rw [← Except.error.inj h]
  exact cause.entryFill?_fault

namespace Guard

theorem of_slippage_ok {s : Settings Int} {value n : Int} (h : slippage s value = .ok n) :
    n = value := by
  obtain ⟨_, _, h⟩ := Except.of_bind_ok h
  obtain ⟨_, _, h⟩ := Except.of_bind_ok h
  obtain ⟨above, _, h⟩ := Except.of_bind_ok h
  cases above with
  | true => cases h
  | false =>
      cases h
      rfl

theorem entryFill?_slippage {s : Settings Int} {value : Int} {f : Fault}
    (h : slippage s value = .error f) : f.entryFill? = none := by
  simp only [slippage, bps, whole?_int, held_int, lt_int, Except.ok_bind] at h
  split at h
  · exact entryFill?_of_refuse h
  · rw [Except.ok_bind] at h
    split at h
    · exact entryFill?_of_refuse h
    · cases h

end Guard

end TradingEngine
