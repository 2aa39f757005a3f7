import TradingEngine.Arithmetic.Quantity
import TradingEngine.Market.Route

/-! # The journal

Everything the engine does is journalled: entries with a level, and tallies that only ever grow. The
fields bound to a run appear in every later entry; an entry's own fields win over bound ones. Every
entry is kept, and the audit trail shows those that were at or above the journal's threshold. An
entry that is shown has to be one that can be written.
-/

namespace TradingEngine

/-- How grave an entry is. -/
inductive Level where
  | debug
  | info
  | warning
  | error
  | critical
  deriving DecidableEq, Repr, Inhabited

namespace Level

def name : Level → String
  | debug => "debug"
  | info => "info"
  | warning => "warning"
  | error => "error"
  | critical => "critical"

def all : List Level := [debug, info, warning, error, critical]

def ofName? (s : String) : Option Level := all.find? (·.name == s)

/-- The rank of a level: graver is higher. -/
def rank : Level → Nat
  | debug => 10
  | info => 20
  | warning => 30
  | error => 40
  | critical => 50

/-- The least rank that a threshold of this name shows. -/
def thresholdNamed? (name : Text) : Option Nat := do
  match ← name.string? with
  | "NOTSET" => some 0
  | "DEBUG" => some debug.rank
  | "INFO" => some info.rank
  | "WARNING" | "WARN" => some warning.rank
  | "ERROR" => some error.rank
  | "CRITICAL" | "FATAL" => some critical.rank
  | _ => none

/-- The ranks at which a threshold can be set. -/
def ranks : List Nat := 0 :: all.map rank

/-- The least rank that a configured threshold shows, which is given by its name or as a rank. -/
def threshold : Json → Except Fault Nat
  | .list _ | .record _ => .error (.breakdown .wrongType)
  | .text name => match thresholdNamed? name with
    | some rank => .ok rank
    | none => .error (.breakdown .absentKey)
  | v => match ranks.find? fun (rank : Nat) => Json.same v (.int (rank : Int)) with
    | some rank => .ok rank
    | none => .error (.breakdown .absentKey)

end Level

/-- How a run ended, or that it has not. -/
inductive RunStatus where
  | running
  | completed
  | exited
  | aborted
  deriving DecidableEq, Repr, Inhabited

def RunStatus.name : RunStatus → String
  | .running => "running"
  | .completed => "completed"
  | .exited => "exited"
  | .aborted => "aborted"

/-- What kind of strategy executed a trade. -/
inductive TradeSource where
  | blocks
  | arbitrage
  deriving DecidableEq, Repr, Inhabited

/-- The limit at which a trade was refused. -/
inductive RiskLimit where
  | maxTradeSize
  | dailyLoss
  deriving DecidableEq, Repr, Inhabited

/-- One step of a tally. -/
inductive Tally where
  | routesFound (route : RouteKind)
  | tradesExecuted (source : TradeSource)
  | riskRejections (limit : RiskLimit)
  | quotesRejected (kind : FailureKind)
  | blocksExecuted (type : BlockType)
  | runsFinished (status : RunStatus)
  | haltTriggered
  deriving DecidableEq, Repr

/-- The name of a tally and its label. -/
def Tally.label : Tally → String
  | .routesFound route => "routes_found:" ++ route.name
  | .tradesExecuted .blocks => "trades_executed:blocks"
  | .tradesExecuted .arbitrage => "trades_executed:arbitrage"
  | .riskRejections .maxTradeSize => "risk_rejections:max_trade_size"
  | .riskRejections .dailyLoss => "risk_rejections:daily_loss_limit"
  | .quotesRejected kind => "quotes_rejected:" ++ kind.code
  | .blocksExecuted type => "blocks_executed:" ++ type.name
  | .runsFinished status => "runs_finished:" ++ status.name
  | .haltTriggered => "kill_triggered"

/-- One entry, with bound and own fields merged. -/
structure Entry where
  /-- The word for its level. -/
  level : Json
  /-- What happened, or `null` if the entry has no word for it. -/
  event : Json
  fields : Fields
  /-- Whether the audit trail shows it. -/
  isShown : Bool := true
  deriving BEq, Repr

/-- The record of an entry; the event and its level are fields like the others and win over them. -/
def Entry.toJson (e : Entry) : Json :=
  let event : Fields := match e.event with
    | .null => []
    | event => [("event", event)]
  .record (Json.putAll (Json.putAll e.fields event) [("level", e.level)])

/-- Entries and tallies in the order in which they were written, and the fields bound to the present
    run. -/
structure Journal where
  /-- The least rank of an entry that is shown. -/
  threshold : Nat := Level.info.rank
  bound : Fields := []
  entries : Array Entry := #[]
  tallies : Array Tally := #[]
  deriving BEq, Repr, Inhabited

namespace Journal

/-- Binds fields to every later entry. -/
def bind (fields : Fields) (j : Journal) : Journal := { j with bound := Json.putAll j.bound fields }

def shows (level : Level) (j : Journal) : Bool := j.threshold ≤ level.rank

/-- The fields that the journal sees to itself. -/
def ownFields : List Text := ["timestamp", "stack_info"]

/-- Adds an entry, without fields that the journal sees to itself. One that is shown but cannot be
    written breaks down. -/
def add (entry : Entry) (j : Journal) : Except Breakdown Journal :=
  let kept := { entry with fields := entry.fields.filter fun field => !ownFields.contains field.1 }
  if kept.isShown && !kept.toJson.isWritable then .error .tooManyDigits
  else .ok { j with entries := j.entries.push kept }

/-- Writes an entry about an event of any kind. -/
def note (level : Level) (event : Json) (fields : Fields) (j : Journal) :
    Except Breakdown Journal :=
  j.add ⟨.string level.name, event, Json.putAll j.bound fields, j.shows level⟩

def write (level : Level) (event : Text) (fields : Fields) (j : Journal) :
    Except Breakdown Journal :=
  j.note level (.text event) fields

def count (tally : Tally) (j : Journal) : Journal := { j with tallies := j.tallies.push tally }

/-- The entries that are shown. -/
def trail (j : Journal) : List Entry := j.entries.toList.filter (·.isShown)

/-- The journal without what `earlier` entries and tallies already held. -/
def since (j earlier : Journal) : Journal :=
  { j with
    entries := j.entries.extract earlier.entries.size j.entries.size
    tallies := j.tallies.extract earlier.tallies.size j.tallies.size }

/-- How often each tally was counted, in the order of first counting. -/
def totals (j : Journal) : List (String × Nat) :=
  let labels := j.tallies.toList.map Tally.label
  labels.eraseDups.map fun label => (label, labels.count label)

end Journal

end TradingEngine
