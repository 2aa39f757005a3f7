import TradingEngine.Failure.Breakdown
import TradingEngine.Record.Problem

/-! # Records changed by hand

A record that was read holds a value in every field. One that is changed by hand holds whatever was
put into it, and may be short of a field or refuse to be written any further. `LooseRecord.read` is
how one of its fields is read, `LooseRecord.assign` what putting a value under a name does.
-/

namespace TradingEngine

/-- A record that is changed by hand. -/
structure LooseRecord where
  kind : RecordKind
  /-- The fields that a record of its kind has. -/
  fields : List Text
  /-- What is kept in the record itself, under the names of fields and under others. -/
  own : Fields
  /-- Where a field is looked up that is not kept in the record itself. -/
  spare : Json := .null
  /-- Whether it can be noted which fields were written. -/
  keepsNotes : Bool := true
  deriving BEq, Repr

namespace LooseRecord

/-- Whether something is kept under a name in the record itself. -/
def holds (name : Text) (r : LooseRecord) : Bool := (Json.lookup name r.own).isSome

/-- The value of a field. -/
def read (name : Text) (r : LooseRecord) : Except Breakdown Json :=
  match Json.lookup name r.own, r.spare with
  | some value, _ => .ok value
  | none, .record others => match Json.lookup name others with
    | some value => .ok value
    | none => .error .absentAttribute
  | none, .null => .error .absentAttribute
  | none, _ => .error .wrongType

/-- Breaks down at the first of these fields that cannot be read. -/
def check (names : List Text) (r : LooseRecord) : Except Breakdown Unit :=
  names.forM fun name => do let _ ← r.read name

/-- The record with a value kept under a name. -/
def keep (name : Text) (value : Json) (r : LooseRecord) : LooseRecord :=
  { r with own := Json.put name value r.own }

/-- Whether a name has two underscores in front and ends in this way. -/
def endsIn (ending : String) (name : Text) : Bool :=
  match name.string? with
  | some s => s.startsWith "__" && s.endsWith ending
  | none => false

/-- Breaks down where a value that cannot tell stands for who writes which field. -/
def checkWriters (r : LooseRecord) : Except Breakdown Unit :=
  match r.own.find? fun (name, _) => endsIn "_handlers__" name with
  | none | some (_, .record _) => .ok ()
  | some _ => .error .absentAttribute

/-- Breaks down where it cannot be noted that a field was written. -/
def checkNotes (r : LooseRecord) : Except Breakdown Unit :=
  if r.keepsNotes then .ok () else .error .absentAttribute

/-- What a record says of itself and nobody can replace. -/
def fixedNames : List Text :=
  ["model_extra", "model_fields_set", "__fields__", "__fields_set__", "__weakref__"]

/-- Puts a value under a name that is no field. A name that begins with an underscore is kept in the
    record itself, but for the names of what a record consists of. -/
def assignBeside (name : Text) (value : Json) (r : LooseRecord) : Except Breakdown LooseRecord :=
  if fixedNames.contains name then .error .absentAttribute
  else if name = "__class__" then .error .wrongType
  else if name = "__dict__" then
    match value with
    | .record own => .ok { r with own }
    | _ => .error .wrongType
  else if endsIn "_extra__" name then .ok { r with spare := value }
  else if endsIn "_fields_set__" name then .ok { r with keepsNotes := false }
  else match name.letters with
    | .char '_' :: _ => .ok (r.keep name value)
    | _ => .error (.noSuchField r.kind name)

/-- Puts a value under a name. A field is written before that is noted, and so stays written where
    the note cannot be made. -/
def assign (name : Text) (value : Json) (r : LooseRecord) :
    Except Breakdown Unit × LooseRecord :=
  match r.checkWriters with
  | .error b => (.error b, r)
  | .ok () =>
    if r.fields.contains name then (r.checkNotes, r.keep name value)
    else match r.assignBeside name value with
      | .ok changed => (.ok (), changed)
      | .error b => (.error b, r)

/-- Puts values under names, one after the other. -/
def assignAll (values : Fields) (r : LooseRecord) : Except Breakdown LooseRecord :=
  values.foldlM (fun r (name, value) =>
    let (ended, changed) := r.assign name value
    ended.map fun () => changed) r

end LooseRecord

end TradingEngine
