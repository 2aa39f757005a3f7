import TradingEngine.Journal.Basic
import TradingEngine.Settings.Basic
import TradingEngine.Venue.Basic

/-! # The world and operations on it

Everything an operation can read or change: the settings, the clock, the halt switch, the journal
and the registered venues. An operation may end in a fault; what it had changed by then stays
changed.
-/

namespace TradingEngine

/-- The state that operations share. -/
structure World (ν : Type) where
  settings : Settings ν
  /-- The time of day, in whole seconds, or what happens to whoever reads it. -/
  clock : Except Breakdown Int := .ok 0
  /-- What is noted of the reason for which trading is halted; nothing while it is not. -/
  halt : Option Text := none
  journal : Journal := {}
  venues : Registry ν := []

/-- An operation on the world. -/
abbrev Engine (ν α : Type) := ExceptT Fault (StateM (World ν)) α

namespace Engine

variable {ν α : Type}

/-- Runs an operation: how it ends, and the world after it. -/
def result (op : Engine ν α) (w : World ν) : Except Fault α × World ν := op.run.run w

/-- Runs an operation to its end, and goes on also where that end is a fault. -/
def attempt (op : Engine ν α) : Engine ν (Except Fault α) :=
  ExceptT.mk do
    let ended ← op.run
    return .ok ended

/-- Ends the operation with a fault. -/
def fault (f : Fault) : Engine ν α := throw f

/-- Ends the operation with a failure. -/
def fail (cause : Cause) : Engine ν α := throw cause.fault

/-- A computation that does not touch the world. -/
def ofExcept : Except Fault α → Engine ν α
  | .ok a => pure a
  | .error f => throw f

def settings : Engine ν (Settings ν) := return (← get).settings

/-- What a computation outside the taxonomy of failures comes to. -/
def ofBreakdown : Except Breakdown α → Engine ν α
  | .ok a => pure a
  | .error b => throw (.breakdown b)

/-- The time to use where the caller gives none. -/
def orClock [Quantity ν] (now : Option ν) : Engine ν ν := do
  match now with
  | some given => return given
  | none => return Quantity.ofInt (← ofBreakdown (← get).clock)

def log (level : Level) (event : Text) (fields : Fields) : Engine ν Unit := do
  let journal ← ofBreakdown ((← get).journal.write level event fields)
  modify ({ · with journal })

def count (tally : Tally) : Engine ν Unit :=
  modify fun w => { w with journal := w.journal.count tally }

/-- Binds fields to every later entry. -/
def bindFields (fields : Fields) : Engine ν Unit :=
  modify fun w => { w with journal := w.journal.bind fields }

end Engine

end TradingEngine
