import TradingEngine.HaltSwitch
import TradingEngine.Settings.Check
import TradingEngine.Settings.Environment

/-! # Starting the engine

What happens before the control surface is served: the settings are read from the environment and
have to be fit, and the journal's threshold has to be one that there is; it holds from then on.
-/

namespace TradingEngine

/-- Where and under what title the control surface is to be served. -/
structure Server (ν : Type) where
  title : String
  host : String
  socket : ν
  deriving DecidableEq, Repr

namespace Startup

variable {ν : Type} [Quantity ν]

/-- Reads the settings from the environment. Unreadable settings are journalled with the words in
    which a reader describes what is wrong with them, and end the start whether or not that can be
    done. -/
def loadSettings (describe : List Problem → Text) (environment : List Settings.Variable) :
    Engine ν (Settings ν) := do
  match Settings.ofEnvironment environment with
  | .value s => return s
  | .broken b => Engine.fault (.breakdown b)
  | .problems ps =>
    let _ ← (Engine.log .critical "FAILED_TO_LOAD_SETTINGS"
      [("error", .text (describe ps))]).attempt
    Engine.fault (.refused .settings ps)

/-- Refuses settings under which no decision should be made, and journals every violation. -/
def checkSettings : Engine ν Unit := do
  Engine.log .info "--- CONFIG VALIDATION START ---" []
  match ← Engine.ofExcept (← Engine.settings).unfit with
  | [] => Engine.log .info "--- CONFIG VALIDATION PASSED ---" []
  | violations =>
    violations.forM fun text => Engine.log .critical text []
    Engine.fault (.breakdown .unfitSettings)

/-- The least rank of the entries that the configured level shows. Whoever is to be told of errors
    has to be known by then. -/
def threshold {ν : Type} (s : Settings ν) : Except Fault Nat := do
  match s.sentryDsn with
  | some secret => if secret.truthy then let _ ← secret.reveal
  | none => pure ()
  Level.threshold (← s.logLevel.held.mapError Fault.breakdown)

/-- Announces that the engine starts and says where it is to be served. -/
def announce : Engine ν (Server ν) := do
  let socket ← Engine.ofExcept (Quantity.held (← Engine.settings).healthPort)
  Engine.log .info "TRADEBOT_ENGINE_STARTING"
    [("port", Quantity.toJson socket),
      ("kill_switch_active", .bool (← HaltSwitch.isActive))]
  return ⟨"tradebot control", "0.0.0.0", socket⟩

/-- Starts the engine and says where it is to be served. The settings are checked under the
    threshold that was in force before. -/
def begin : Engine ν (Server ν) := do
  let rank ← Engine.ofExcept (threshold (← Engine.settings))
  checkSettings
  modify fun w => { w with journal := { w.journal with threshold := rank } }
  announce

/-- Notes that the engine is no longer served. -/
def finish : Engine ν Unit := Engine.log .warning "SYSTEM_SHUTDOWN_COMPLETE" []

end Startup

end TradingEngine
