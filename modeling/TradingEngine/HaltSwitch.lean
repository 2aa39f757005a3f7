import TradingEngine.World

/-! # The halt switch

While the switch is on no strategy runs and no venue executes. `HaltSwitch.check` stands in front of
everything that trades.
-/

namespace TradingEngine.HaltSwitch

variable {ν : Type}

def isActive : Engine ν Bool := return (← get).halt.isSome

/-- What is noted of the reason for which trading is halted. -/
def note (reason : Text) : Text := "REASON: " ++ reason ++ "\n"

/-- Halts trading. A reason that cannot be put into words changes nothing; one with a half of a
    surrogate pair halts trading and is not noted. -/
def activate (reason : Json) : Engine ν Unit := do
  let noted := note (← Engine.ofExcept reason.inWords)
  if !noted.isWhole then
    modify ({ · with halt := some "" })
    Engine.fault (.breakdown .notEncodable)
  modify ({ · with halt := some noted })
  Engine.log .critical "KILL_SWITCH_ACTIVATED" [("reason", reason)]

/-- Lets trading go on; nothing happens if it is not halted. -/
def deactivate : Engine ν Unit := do
  if ← isActive then
    modify ({ · with halt := none })
    Engine.log .warning "KILL_SWITCH_DEACTIVATED" []

/-- Refuses while trading is halted. -/
def check : Engine ν Unit := do
  if ← isActive then
    Engine.count .haltTriggered
    Engine.fail .halted

end TradingEngine.HaltSwitch
