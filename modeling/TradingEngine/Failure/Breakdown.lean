import TradingEngine.Record.Problem

/-! # Breakdowns

What can go wrong outside the taxonomy of failures: events that no operation is prepared for. They
end whatever is going on and are never handled by the engine itself.
-/

namespace TradingEngine

/-- The families of words of which a caller has to name a member. -/
inductive WordFamily where
  | venues
  | routes
  deriving DecidableEq, Repr

/-- An event that no operation is prepared for. -/
inductive Breakdown where
  /-- A scripted venue was told to fail its next call. -/
  | forced
  | divisionByZero
  /-- A value is of no use where it stands. -/
  | wrongType
  | absentKey
  | absentAttribute
  /-- A value, here spelled out, is no word of the family asked for. -/
  | notMember (spelled : String) (family : WordFamily)
  /-- A field to be written does not belong to the record. -/
  | noSuchField (record : RecordKind) (field : Text)
  /-- A whole number is beyond every double, or beyond every size. -/
  | tooLarge
  | outOfMemory
  /-- A text, here in quotes, is no plain numeral. -/
  | notNumeral (quoted : String)
  /-- A plain numeral has more digits than are read. -/
  | numeralTooLong (digits : Nat)
  /-- A whole number has more digits than are written. -/
  | tooManyDigits
  /-- A value holds lists and objects further within one another than are written. -/
  | tooDeep
  /-- NaN stands where a whole number is needed. -/
  | notNumber
  /-- A response holds a double that JSON has no text for. -/
  | notWritable
  /-- A text holds letters that the encoding in which it is sent has no place for. -/
  | notEncodable
  /-- A variable of the environment holds a zero. -/
  | zeroByte
  /-- A variable of the environment cannot have this name. -/
  | badVariableName
  /-- A variable of the environment has no name. -/
  | noVariableName
  /-- A request's target cannot be sent. -/
  | badTarget
  /-- A request's target asks for another kind of connection. -/
  | notARequest
  /-- A redirection leads to a target that is none. -/
  | badRedirection
  | tooManyRedirections
  | unfitSettings
  deriving DecidableEq, Repr

end TradingEngine
