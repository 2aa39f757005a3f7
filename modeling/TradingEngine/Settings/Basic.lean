import TradingEngine.Arithmetic.Quantity
import TradingEngine.Record.Loose

/-! # Settings

The thresholds under which the engine decides, and how it is operated. `Settings.numbers` lists the
settings that are quantities under the names by which they are set and reported, `Settings.strings`
those that are texts.
-/

namespace TradingEngine

/-- A setting that is to be kept secret: a text that was read as one, or any value put in its
    place. -/
inductive Secret where
  | text (t : Text)
  | bare (v : Json)
  deriving BEq, Repr

namespace Secret

/-- Whether there is anything to be kept secret. -/
def truthy : Secret → Bool
  | text t => !t.isEmpty
  | bare v => v.truthy

/-- The text of a secret. A value in its place cannot be opened. -/
def reveal : Secret → Except Fault Text
  | text t => .ok t
  | bare _ => .error (.breakdown .absentAttribute)

/-- The text of a secret, if it was read as one. -/
def text? : Secret → Option Text
  | text t => some t
  | bare _ => none

end Secret

/-- The engine's settings. -/
structure Settings (ν : Type) where
  maxStalenessSeconds : ν
  maxConfidence : ν
  minConfidence : ν
  /-- How wide a confidence interval may be, in basis points of the price. -/
  maxRelativeConfidenceBps : ν
  priceEqualTolerance : ν
  routeMaxSlippageBps : ν
  routeDeadlineSeconds : ν
  maxSlippageBps : ν
  maxDeadlineSeconds : ν
  tickSpacing : ν
  maxLoopIterations : ν
  /-- The name or the rank of the least level that is shown. -/
  logLevel : Json := .text "INFO"
  logSigningKey : Option Secret := none
  sentryDsn : Option Secret := none
  /-- Where the audit trail and the halt switch are kept. -/
  sessionDir : Text := "/tmp/tradebot_session"
  /-- The operator's token; one that counts as false is none. -/
  controlApiToken : Json := .null
  healthPort : ν
  deriving BEq, Repr

variable {ν : Type}

/-- A setting that is a quantity: its name, its value, and the settings with another value for
    it. -/
structure NumberSetting (ν : Type) where
  name : String
  get : Settings ν → ν
  set : ν → Settings ν → Settings ν

/-- A text setting: its name, its value if it is set, and the settings with another value for
    it. -/
structure TextSetting (ν : Type) where
  name : String
  get : Settings ν → Option Text
  set : Text → Settings ν → Settings ν

namespace Settings

/-- The settings of an engine for which nothing is set. -/
def standard [Quantity ν] : Settings ν :=
  { maxStalenessSeconds := Quantity.ofInt 60
    maxConfidence := Quantity.ofInt 1000000
    minConfidence := Quantity.ofInt 100
    maxRelativeConfidenceBps := Quantity.ofInt 100
    priceEqualTolerance := Quantity.ofInt 100
    routeMaxSlippageBps := Quantity.ofInt 100
    routeDeadlineSeconds := Quantity.ofInt 60
    maxSlippageBps := Quantity.ofInt 1000
    maxDeadlineSeconds := Quantity.ofInt 3600
    tickSpacing := Quantity.ofInt 1
    maxLoopIterations := Quantity.ofInt 100
    healthPort := Quantity.ofInt 8080 }

instance [Quantity ν] : Inhabited (Settings ν) := ⟨standard⟩

/-- The settings that are quantities. -/
def numbers : List (NumberSetting ν) :=
  [⟨"MAX_STALENESS_SECONDS", maxStalenessSeconds, fun n s => { s with maxStalenessSeconds := n }⟩,
   ⟨"MAX_CONFIDENCE", maxConfidence, fun n s => { s with maxConfidence := n }⟩,
   ⟨"MIN_CONFIDENCE", minConfidence, fun n s => { s with minConfidence := n }⟩,
   ⟨"MAX_RELATIVE_CONFIDENCE_BPS", maxRelativeConfidenceBps,
    fun n s => { s with maxRelativeConfidenceBps := n }⟩,
   ⟨"PRICE_EQUAL_TOLERANCE", priceEqualTolerance, fun n s => { s with priceEqualTolerance := n }⟩,
   ⟨"ROUTE_MAX_SLIPPAGE_BPS", routeMaxSlippageBps, fun n s => { s with routeMaxSlippageBps := n }⟩,
   ⟨"ROUTE_DEADLINE_SECONDS", routeDeadlineSeconds,
    fun n s => { s with routeDeadlineSeconds := n }⟩,
   ⟨"MAX_SLIPPAGE_BPS", maxSlippageBps, fun n s => { s with maxSlippageBps := n }⟩,
   ⟨"MAX_DEADLINE_SECONDS", maxDeadlineSeconds, fun n s => { s with maxDeadlineSeconds := n }⟩,
   ⟨"TICK_SPACING", tickSpacing, fun n s => { s with tickSpacing := n }⟩,
   ⟨"MAX_LOOP_ITERATIONS", maxLoopIterations, fun n s => { s with maxLoopIterations := n }⟩,
   ⟨"HEALTH_PORT", healthPort, fun n s => { s with healthPort := n }⟩]

/-- The text settings. -/
def strings : List (TextSetting ν) :=
  [⟨"LOG_LEVEL", fun s => s.logLevel.text?, fun t s => { s with logLevel := .text t }⟩,
   ⟨"LOG_SIGNING_KEY", fun s => s.logSigningKey.bind Secret.text?,
    fun t s => { s with logSigningKey := some (.text t) }⟩,
   ⟨"SENTRY_DSN", fun s => s.sentryDsn.bind Secret.text?,
    fun t s => { s with sentryDsn := some (.text t) }⟩,
   ⟨"SESSION_DIR", fun s => some s.sessionDir, fun t s => { s with sessionDir := t }⟩,
   ⟨"CONTROL_API_TOKEN", fun s => s.controlApiToken.text?,
    fun t s => { s with controlApiToken := .text t }⟩]

/-- Every setting under its name, the secret ones as they are. -/
def toJson [Quantity ν] (s : Settings ν) : Json :=
  let written : Fields := numbers.map fun setting => (setting.name, Quantity.toJson (setting.get s))
  .record (Json.putAll written (strings.map fun setting =>
    (setting.name, .ofOption .text (setting.get s))))

/-- The settings as a record that can be changed by hand. -/
def loose (s : Settings Json) : LooseRecord :=
  let own := s.toJson.fields
  { kind := .settings, fields := own.map (·.1), own }

/-- The settings with what stands in a record in their place, as it is. What is signed and where
    files are kept is settled once the engine runs, and does not change any more. -/
def replaced (record : LooseRecord) (s : Settings Json) : Settings Json :=
  let value (name : Text) : Json := (record.read name).toOption.getD .gone
  let s := numbers.foldl (fun s setting => setting.set (value setting.name) s) s
  { s with
    logLevel := value "LOG_LEVEL"
    sentryDsn := some (.bare (value "SENTRY_DSN"))
    controlApiToken := value "CONTROL_API_TOKEN" }

/-- The settings with values put under names by hand. -/
def override (values : Fields) (s : Settings Json) : Except Fault (Settings Json) :=
  ((s.loose.assignAll values).map (s.replaced ·)).mapError .breakdown

/-- The key under which audit lines are signed. -/
def signingKey (s : Settings ν) : Text :=
  match s.logSigningKey with
  | some (.text key) => if key.isEmpty then "insecure" else key
  | _ => "insecure"

end Settings

end TradingEngine
