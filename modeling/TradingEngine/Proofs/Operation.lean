import TradingEngine.HaltSwitch
import TradingEngine.Strategy.Interpreter

/-! # How operations end

An operation of the engine maps a world to an end and a world, and a step of a run does the same
with a machine. `result_bind` opens a chain of operations one link at a time: a link that ends in a
fault is the last one, and what was changed by then stays changed. The other lemmas say how the
single links end.
-/

namespace TradingEngine

variable {ν α β : Type}

namespace Engine

@[simp] theorem result_pure (a : α) (w : World ν) :
    (pure a : Engine ν α).result w = (.ok a, w) := rfl

theorem result_bind (op : Engine ν α) (next : α → Engine ν β) (w : World ν) :
    (op >>= next).result w = match op.result w with
      | (.ok a, after) => (next a).result after
      | (.error f, after) => (.error f, after) := by
  simp only [result, ExceptT.run_bind, StateT.run_bind]
  cases h : op.run.run w with
  | mk ended after => cases ended <;> simp_all [StateT.run] <;> rfl

/-- A chain that comes to its end went through every link. -/
theorem of_bind_ok {op : Engine ν α} {next : α → Engine ν β} {w after : World ν} {b : β}
    (h : (op >>= next).result w = (.ok b, after)) :
    ∃ a between, op.result w = (.ok a, between) ∧
      (next a).result between = (.ok b, after) := by
  rw [result_bind] at h
  cases ended : op.result w with
  | mk r between =>
      rw [ended] at h
      cases r with
      | ok a => exact ⟨a, between, rfl, h⟩
      | error f => cases h

@[simp] theorem result_fault (f : Fault) (w : World ν) :
    (fault f : Engine ν α).result w = (.error f, w) := rfl

@[simp] theorem result_fail (cause : Cause) (w : World ν) :
    (fail cause : Engine ν α).result w = (.error cause.fault, w) := rfl

@[simp] theorem result_get (w : World ν) : (get : Engine ν (World ν)).result w = (.ok w, w) := rfl

@[simp] theorem result_set (w after : World ν) :
    (set after : Engine ν PUnit).result w = (.ok ⟨⟩, after) := rfl

@[simp] theorem result_modify (f : World ν → World ν) (w : World ν) :
    (modify f : Engine ν PUnit).result w = (.ok ⟨⟩, f w) := rfl

@[simp] theorem result_settings (w : World ν) :
    (settings : Engine ν (Settings ν)).result w = (.ok w.settings, w) := rfl

@[simp] theorem result_ofExcept (r : Except Fault α) (w : World ν) :
    (ofExcept r : Engine ν α).result w = (r, w) := by
  cases r <;> rfl

theorem ofExcept_ok (a : α) : (ofExcept (.ok a) : Engine ν α) = pure a := rfl

@[simp] theorem result_count (tally : Tally) (w : World ν) :
    (count tally : Engine ν Unit).result w =
      (.ok (), { w with journal := w.journal.count tally }) := rfl

@[simp] theorem result_attempt (op : Engine ν α) (w : World ν) :
    op.attempt.result w = (.ok (op.result w).1, (op.result w).2) := rfl

theorem result_log (level : Level) (event : Text) (fields : Fields) (w : World ν) :
    (log level event fields : Engine ν Unit).result w =
      match w.journal.write level event fields with
      | .ok journal => (.ok (), { w with journal })
      | .error b => (.error (.breakdown b), w) := by
  simp only [log, result_bind, result_get]
  cases w.journal.write level event fields <;> rfl

end Engine

@[simp] theorem Registry.result_store (kind : VenueKind) (venue : Venue ν) (w : World ν) :
    (store kind venue : Engine ν Unit).result w =
      (.ok (), { w with venues := Table.put kind venue w.venues }) := rfl

theorem Registry.result_find (kind : VenueKind) (shown : Text) (w : World ν) :
    (find kind shown : Engine ν (Venue ν)).result w =
      match Table.get? kind w.venues with
      | some venue => (.ok venue, w)
      | none => (.error (Cause.noVenue shown).fault, w) := by
  simp only [find, Engine.result_bind, Engine.result_get]
  cases Table.get? kind w.venues <;> rfl

theorem Registry.result_find_bind {kind : VenueKind} {shown : Text} {w : World ν}
    {venue : Venue ν} (here : Table.get? kind w.venues = some venue)
    (next : Venue ν → Engine ν α) :
    (find kind shown >>= next).result w = (next venue).result w := by
  rw [Engine.result_bind, result_find, here]

theorem RiskLimits.of_allow_ok [Quantity ν] {risk : RiskLimits} {metrics : Metrics ν} {size : ν}
    {w after : World ν} (h : (risk.allow metrics size).result w = (.ok true, after)) :
    risk.broken? metrics size = .ok none ∧ after = w := by
  obtain ⟨broken, between, found, rest⟩ := Engine.of_bind_ok h
  rw [Engine.result_ofExcept] at found
  obtain ⟨unbroken, rfl⟩ := Prod.mk.inj found
  cases broken with
  | none =>
      cases rest
      exact ⟨unbroken, rfl⟩
  | some limit =>
      cases limit <;>
        · obtain ⟨_, _, _, rest⟩ := Engine.of_bind_ok rest
          obtain ⟨_, _, _, rest⟩ := Engine.of_bind_ok rest
          cases rest

theorem RiskLimits.of_allow_refused [Quantity ν] {risk : RiskLimits} {metrics : Metrics ν}
    {size : ν} {w after : World ν} (h : (risk.allow metrics size).result w = (.ok false, after)) :
    ∃ limit, risk.broken? metrics size = .ok (some limit) := by
  obtain ⟨broken, _, found, rest⟩ := Engine.of_bind_ok h
  rw [Engine.result_ofExcept] at found
  obtain ⟨judged, rfl⟩ := Prod.mk.inj found
  cases broken with
  | none => cases rest
  | some limit => exact ⟨limit, judged⟩

theorem HaltSwitch.result_isActive (w : World ν) :
    (isActive : Engine ν Bool).result w = (.ok w.halt.isSome, w) := rfl

theorem HaltSwitch.result_check (w : World ν) :
    (check : Engine ν Unit).result w =
      if w.halt.isSome then
        (.error Cause.halted.fault, { w with journal := w.journal.count .haltTriggered })
      else (.ok (), w) := by
  rw [check, Engine.result_bind, result_isActive]
  cases h : w.halt <;> simp [Engine.result_bind, h]

/-- What stands behind the check is done unless trading is halted. -/
theorem HaltSwitch.result_check_bind (next : Unit → Engine ν α) (w : World ν) :
    (check >>= next).result w =
      if w.halt.isSome then
        (.error Cause.halted.fault, { w with journal := w.journal.count .haltTriggered })
      else (next ()).result w := by
  rw [Engine.result_bind, result_check]
  cases w.halt.isSome <;> rfl

namespace Run

/-- Takes a step of a run on a machine. -/
def result (step : Run ν α) (m : Machine ν) : Except Stop α × Machine ν := step.run.run m

@[simp] theorem result_pure (a : α) (m : Machine ν) :
    (pure a : Run ν α).result m = (.ok a, m) := rfl

theorem result_bind (step : Run ν α) (next : α → Run ν β) (m : Machine ν) :
    (step >>= next).result m = match step.result m with
      | (.ok a, after) => (next a).result after
      | (.error stop, after) => (.error stop, after) := by
  simp only [result, ExceptT.run_bind, StateT.run_bind]
  cases h : step.run.run m with
  | mk ended after => cases ended <;> simp_all [StateT.run] <;> rfl

theorem of_bind_ok {step : Run ν α} {next : α → Run ν β} {m after : Machine ν} {b : β}
    (h : (step >>= next).result m = (.ok b, after)) :
    ∃ a between, step.result m = (.ok a, between) ∧
      (next a).result between = (.ok b, after) := by
  rw [result_bind] at h
  cases ended : step.result m with
  | mk r between =>
      rw [ended] at h
      cases r with
      | ok a => exact ⟨a, between, rfl, h⟩
      | error stop => cases h

@[simp] theorem result_get (m : Machine ν) :
    (get : Run ν (Machine ν)).result m = (.ok m, m) := rfl

@[simp] theorem result_state (m : Machine ν) :
    (state : Run ν RunState).result m = (.ok m.state, m) := rfl

@[simp] theorem result_update (f : RunState → RunState) (m : Machine ν) :
    (update f : Run ν Unit).result m = (.ok (), { m with state := f m.state }) := rfl

@[simp] theorem result_finish (status : RunStatus) (reason : Text) (m : Machine ν) :
    (finish status reason : Run ν α).result m = (.error (.finished status reason), m) := rfl

theorem result_ofEngine (op : Engine ν α) (m : Machine ν) :
    (ofEngine op).result m =
      ((op.result m.world).1.mapError Stop.fault, { m with world := (op.result m.world).2 }) := rfl

theorem of_ofEngine_ok {op : Engine ν α} {m after : Machine ν} {a : α}
    (h : (ofEngine op).result m = (.ok a, after)) :
    op.result m.world = (.ok a, after.world) ∧ after.state = m.state := by
  rw [result_ofEngine] at h
  cases ended : op.result m.world with
  | mk r between =>
      rw [ended] at h
      cases r with
      | ok a =>
          cases h
          exact ⟨rfl, rfl⟩
      | error f => cases h

theorem of_ofExcept_ok {r : Except Fault α} {m after : Machine ν} {a : α}
    (h : (ofExcept r).result m = (.ok a, after)) : r = .ok a ∧ after = m := by
  cases r with
  | ok a =>
      cases h
      exact ⟨rfl, rfl⟩
  | error f => cases h

@[simp] theorem result_ofExcept (r : Except Fault α) (m : Machine ν) :
    (ofExcept r : Run ν α).result m = (r.mapError Stop.fault, m) := by
  simp [ofExcept, result_ofEngine]

end Run

end TradingEngine
