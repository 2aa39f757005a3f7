import TradingEngine.Control.Surface
import TradingEngine.Journal.Audit
import TradingEngine.Record.Control
import TradingEngine.Startup

/-! # The command

Starts the engine under the settings of the environment and serves the control surface to a host
that stands before it: one request per line in, one response per line out, each a JSON record. A
request may carry the time of day as its field `clock`. What is journalled goes to the error stream
as signed audit lines.
-/

namespace TradingEngine.Main

/-- The environment, as far as it concerns the settings. -/
def environment : IO (List Settings.Variable) := do
  let numbers : List (NumberSetting Int) := Settings.numbers
  let strings : List (TextSetting Int) := Settings.strings
  let names := numbers.map (·.name) ++ strings.map (·.name)
  names.filterMapM fun name => do
    let key := Settings.variableStem.toUpper ++ name
    return (← IO.getEnv key).map fun value => (Text.ofString key, Text.ofString value)

/-- For how many lists and objects within one another there is room in the trail. -/
def room : Nat := 1000

/-- Writes what was journalled since an earlier time. -/
def report (earlier w : World Int) : IO Unit := do
  let stderr ← IO.getStderr
  if let .ok sign := Audit.signer w.settings.signingKey then
    let notices := (w.journal.since earlier.journal).trail.map (⟨·.toJson, room⟩)
    stderr.putStr (Audit.trail sign notices)

/-- The response to one request as it was written. -/
def respondTo (written : Json) : Engine Int Json := do
  match (written.field? "clock").bind Json.whole? with
  | some clock => modify ({ · with clock := .ok clock })
  | none => pure ()
  match ControlRequest.decode written with
  | .problems ps => return (Control.unprocessable ps).toJson
  | .broken b => Engine.fault (.breakdown b)
  | .value request => return (← Control.handle request).toJson

def respond (line : String) : Engine Int Json := do
  match ControlRequest.jsonContent line with
  | .json written => respondTo written
  | .malformed position =>
    return (Control.unprocessable [⟨[.item position], .jsonInvalid⟩]).toJson
  | _ => return Denial.unreadableBody.response.toJson

/-- Answers lines until the input ends. -/
partial def serve (input output : IO.FS.Stream) (w : World Int) : IO (World Int) := do
  let line ← input.getLine
  if line.isEmpty then return w
  let (ended, after) := (respond line).result w
  match ended with
  | .ok response => output.putStrLn (String.ofList response.render)
  | .error _ => output.putStrLn (String.ofList (Json.record [("status", .int 500)]).render)
  output.flush
  report w after
  serve input output after

/-- Reads the settings and starts the engine. -/
def start (env : List Settings.Variable) : Engine Int (Server Int) := do
  let settings ← Startup.loadSettings (fun ps => (Json.list (ps.map (·.toJson))).canonical) env
  modify ({ · with settings })
  Startup.begin

end TradingEngine.Main

open TradingEngine in
/-- Runs the engine; the exit code is 1 if it cannot start. -/
def main : IO UInt32 := do
  let empty : World Int := { settings := Settings.standard }
  let (ended, started) := (Main.start (← Main.environment)).result empty
  Main.report empty started
  match ended with
  | .error _ => return 1
  | .ok _ =>
    let served ← Main.serve (← IO.getStdin) (← IO.getStdout) started
    Main.report served (Startup.finish.result served).2
    return 0
