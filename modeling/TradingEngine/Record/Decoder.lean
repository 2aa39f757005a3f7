import TradingEngine.Arithmetic.Quantity

/-! # Reading records

Combinators that read a typed record from a JSON value. All problems of a record are reported
together, each with its place; only a part that is itself unreadable hides what lies below it. A
default that breaks down ends the reading.

Whole numbers are read leniently: booleans count as 1 and 0, a double without a fraction and a text
that spells a number are numbers too.
-/

namespace TradingEngine

/-- A value that has been read, or every problem that stood in the way. -/
inductive Decoded (α : Type) where
  | value (a : α)
  | problems (ps : List Problem)
  /-- A value that was not given broke down. -/
  | broken (b : Breakdown)
  deriving Repr

namespace Decoded

/-- Applies a function to what has been read. -/
def map {α β : Type} (f : α → β) : Decoded α → Decoded β
  | .value a => .value (f a)
  | .problems ps => .problems ps
  | .broken b => .broken b

/-- Reads two things; the problems of both are reported. -/
def both {α β : Type} (f : Decoded (α → β)) (a : Decoded α) : Decoded β :=
  match f, a with
  | .value f, .value a => .value (f a)
  | .value _, .problems ps => .problems ps
  | .problems ps, .value _ => .problems ps
  | .problems ps, .problems qs => .problems (ps ++ qs)
  | .broken b, _ => .broken b
  | _, .broken b => .broken b

instance : Applicative Decoded where
  pure := .value
  map := map
  seq f a := both f (a ())

/-- What was read at a step further in, seen from outside. -/
def below {α : Type} (step : PlaceStep) : Decoded α → Decoded α
  | .value a => .value a
  | .problems ps => .problems (ps.map (Problem.below step))
  | .broken b => .broken b

/-- A value with nothing but this problem. -/
def problem {α : Type} (kind : ProblemKind) : Decoded α := .problems [⟨[], kind⟩]

/-- Reads on from a value; nothing is read after a problem. -/
def andThen {α β : Type} (d : Decoded α) (f : α → Decoded β) : Decoded β :=
  match d with
  | .value a => f a
  | .problems ps => .problems ps
  | .broken b => .broken b

/-- The value, or the fault of a record of this kind. -/
def orFault {α : Type} (record : RecordKind) : Decoded α → Except Fault α
  | .value a => .ok a
  | .problems ps => .error (.refused record ps)
  | .broken b => .error (.breakdown b)

end Decoded

/-- Where a record comes from, which decides how a value that is no object is reported. -/
inductive Origin where
  | caller
  | request
  deriving DecidableEq, Repr

/-- The problem of a record that is no object. -/
def Origin.noObject : Origin → ProblemKind
  | .caller => .modelType
  | .request => .modelAttributesType

/-- A reader of typed values. -/
abbrev Decoder (α : Type) := Json → Decoded α

namespace Decoder

/-- The bound below which the magnitude of a double has to be. -/
def doubleLimit : Float := 9223372036854775808.0

/-- A whole number, read leniently. -/
def int : Decoder Int
  | .int n => .value n
  | .bool b => .value (if b then 1 else 0)
  | .real x =>
    if x.isNaN || x.isInf then .problem .finiteNumber
    else match Double.whole? x with
      | some n =>
        if -doubleLimit < x && x < doubleLimit then .value n else .problem .intTooLong
      | none => .problem .intFromFloat
  | .text t => match t.chars?.map Numeral.int? with
    | some (.ok n) => .value n
    | some (.error .malformed) => .problem .intParsing
    | some (.error .tooLong) => .problem .intTooLong
    | none => .problem .stringRagged
  | _ => .problem .intType

@[simp] theorem int_int (n : Int) : int (.int n) = .value n := rfl

/-- A quantity that becomes a field of a record. -/
def field {ν : Type} [Quantity ν] (name : String) (quantity : ν) : Decoded Int :=
  (int (Quantity.toJson quantity)).below (.field name)

@[simp] theorem field_int (name : String) (n : Int) : field name n = .value n := rfl

def atLeast (least : Int) : Decoder Int := fun j =>
  (int j).andThen fun n => if n < least then .problem .greaterThanEqual else .value n

def above (bound : Int) : Decoder Int := fun j =>
  (int j).andThen fun n => if n ≤ bound then .problem .greaterThan else .value n

def within (least most : Int) : Decoder Int := fun j =>
  (int j).andThen fun n =>
    if n > most then .problem .lessThanEqual
    else if n < least then .problem .greaterThanEqual
    else .value n

def text : Decoder Text
  | .text t => .value t
  | _ => .problem .stringType

/-- One of the words of a family. -/
def member {α : Type} (name : α → String) (all : List α) : Decoder α
  | .text t => match t.string?.map fun s => all.find? (name · == s) with
    | some (some a) => .value a
    | some none => .problem .notMember
    | none => .problem .stringRagged
  | _ => .problem .notMember

/-- A value that may be `null`. -/
def optional {α : Type} (d : Decoder α) : Decoder (Option α)
  | .null => .value none
  | j => (d j).map some

/-- The items of a list, numbered from `index`. -/
def itemsFrom {α : Type} (d : Decoder α) (index : Nat) : List Json → Decoded (List α)
  | [] => .value []
  | j :: rest => List.cons <$> (d j).below (.item index) <*> itemsFrom d (index + 1) rest

def list {α : Type} (d : Decoder α) : Decoder (List α)
  | .list items => itemsFrom d 0 items
  | _ => .problem .listType

/-- The values of a table with text keys. -/
def rows {α : Type} (d : Decoder α) : Fields → Decoded (List (Text × α))
  | [] => .value []
  | (key, j) :: rest =>
    (fun a more => (key, a) :: more) <$> (d j).below (.entry key) <*> rows d rest

/-- A table with text keys. -/
def table {α : Type} (d : Decoder α) : Decoder (List (Text × α))
  | .record fields => rows d fields
  | _ => .problem .dictType

/-- The rows of a table whose keys are words of a family. A wrong key is reported at the key. -/
def keyedRows {κ α : Type} (key : Decoder κ) (d : Decoder α) : Fields → Decoded (List (κ × α))
  | [] => .value []
  | (k, j) :: rest =>
    (fun k a more => (k, a) :: more) <$> ((key (.text k)).below (.field "[key]")).below (.entry k)
      <*> (d j).below (.entry k) <*> keyedRows key d rest

/-- A table whose keys are words of a family. -/
def keyedTable {κ α : Type} (key : Decoder κ) (d : Decoder α) : Decoder (List (κ × α))
  | .record fields => keyedRows key d fields
  | _ => .problem .dictType

/-- A record, read from its fields. -/
def object {α : Type} (origin : Origin) (read : Fields → Decoded α) : Decoder α
  | .record fields => read fields
  | _ => .problem origin.noObject

/-- A field that has to be there. -/
def required {α : Type} (fields : Fields) (name : String) (d : Decoder α) : Decoded α :=
  match Json.lookup name fields with
  | some j => (d j).below (.field name)
  | none => Decoded.below (.field name) (.problem .missing)

/-- A field with a default that may break down. -/
def defaultedBy {α : Type} (fields : Fields) (name : String) (d : Decoder α)
    (default : Except Breakdown α) : Decoded α :=
  match Json.lookup name fields, default with
  | some j, _ => (d j).below (.field name)
  | none, .ok a => .value a
  | none, .error b => .broken b

/-- A field with a default. -/
def defaulted {α : Type} (fields : Fields) (name : String) (d : Decoder α) (default : α) :
    Decoded α :=
  defaultedBy fields name d (.ok default)

/-- A field that may be absent or `null`. -/
def optionalField {α : Type} (fields : Fields) (name : String) (d : Decoder α) :
    Decoded (Option α) :=
  defaulted fields name (optional d) none

/-- Refuses every field that is not among these. -/
def only (names : List String) (fields : Fields) : Decoded Unit :=
  match fields.filter fun field => !(field.1.string?.any names.contains) with
  | [] => .value ()
  | extra => .problems (extra.map fun field => ⟨[.entry field.1], .extraForbidden⟩)

/-- A record that may have no field but these. A name that does not hold characters alone hides what
    else is wrong. -/
def closed {α : Type} (names : List String) (fields : Fields) (read : Decoded α) : Decoded α :=
  if fields.all (·.1.isWhole) then (fun a () => a) <$> read <*> only names fields
  else .problem .stringRagged

end Decoder

end TradingEngine
