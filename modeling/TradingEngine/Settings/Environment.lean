import TradingEngine.Record.Decoder
import TradingEngine.Settings.Basic

/-! # Settings from environment variables

Each setting has one environment variable, its name behind a stem. Case does not matter in the names
of variables, a variable that belongs to no setting is ignored, and whole numbers are read as they
are in records.
-/

namespace TradingEngine.Settings

/-- What the name of every variable begins with, in lower case. -/
def variableStem : String := "tradebot_"

/-- A variable of the environment: its name and its value. -/
abbrev Variable := Text × Text

/-- A letter of a variable's name without regard to case. -/
def foldCase : Letter → Letter
  | .char c => .char (if c = '\u212A' then 'k' else c.toLower)
  | half => half

/-- What the environment says about a setting. Of variables that differ in case only the last one
    counts. -/
def valueOf? (environment : List Variable) (name : String) : Option Text :=
  let wanted := Text.ofString (variableStem ++ name.toLower)
  (environment.reverse.find? (·.1.letters.map foldCase == wanted.letters)).map (·.2)

/-- Whether the environment can hold a letter. Of the halves of surrogate pairs only those can that
    stand for a byte beyond ASCII. -/
def isHeld : Letter → Bool
  | .char _ => true
  | .half offset => 0x480 ≤ offset.val && offset.val < 0x500

/-- The variable of this name and this value, if the environment can hold it. -/
def variableOf (name : Text) (value : Json) : Except Breakdown Variable := do
  if !name.letters.all isHeld then .error .notEncodable
  match value with
  | .text value =>
    if !value.letters.all isHeld then .error .notEncodable
    else if (name.letters ++ value.letters).any (·.is '\x00') then .error .zeroByte
    else if name.letters.any (·.is '=') then .error .badVariableName
    else if name.isEmpty then .error .noVariableName
    else .ok (name, value)
  | _ => .error .wrongType

variable {ν : Type} [Quantity ν]

/-- Reads one whole-number setting. -/
def withNumber (environment : List Variable) (s : Decoded (Settings ν))
    (setting : NumberSetting ν) : Decoded (Settings ν) :=
  match valueOf? environment setting.name with
  | none => s
  | some text =>
    (fun s n => setting.set (Quantity.ofInt n) s) <$> s
      <*> (Decoder.int (.text text)).below (.field setting.name)

/-- Reads one text setting. -/
def withText (environment : List Variable) (s : Settings ν) (setting : TextSetting ν) :
    Settings ν :=
  match valueOf? environment setting.name with
  | none => s
  | some text => setting.set text s

/-- The settings under an environment, with defaults for what it does not set. Every variable that
    does not spell a whole number where one is needed is reported. -/
def ofEnvironment (environment : List Variable) : Decoded (Settings ν) :=
  numbers.foldl (withNumber environment) (.value (strings.foldl (withText environment) standard))

end TradingEngine.Settings
