import TradingEngine.Journal.Basic

/-! # Calls to the journal

A caller writes to the journal by a call of a name, with an event and fields. Most names write an
entry; others are part of the journal's repertoire but write none, and break down where an event and
fields are not what they take.
-/

namespace TradingEngine

/-- What a call comes to. -/
inductive JournalCall where
  /-- An entry of a level. -/
  | entry (level : Level)
  /-- An entry about an error that was caught. -/
  | caught
  /-- An entry of a level that the event tells by its rank. -/
  | ranked
  /-- An entry that the event tells to be handed to the writer of this name, whatever the
      threshold. -/
  | handed
  /-- An entry of the level that the event names, written without a writer. -/
  | processed
  /-- An entry that is put off, and never written. -/
  | deferred
  /-- An entry that is put off, of a level that the event tells. -/
  | deferredRanked
  /-- A level, given as the event, that is only asked about. -/
  | query
  /-- The removal of a bound field, named by the event; it has to be there. -/
  | release
  /-- The removal of a bound field that may be there. -/
  | discard
  /-- A comparison of the journal with the event. -/
  | comparison
  /-- The journal in words, in the form that the event tells; there is only the plain one. -/
  | description
  /-- The parts of which the journal could be made again, for a whole number. -/
  | disassembly
  /-- A part of the journal, named by the event. -/
  | part
  /-- A part that is the journal's own, named by the event. -/
  | ownPart
  /-- The parts of a journal, given as the event, that take the place of the present ones. -/
  | parts
  /-- Another journal, of which the event and the fields are parts. -/
  | another
  /-- A call that takes no event, or a part of the journal that cannot be called. -/
  | eventless
  deriving DecidableEq, Repr

namespace JournalCall

/-- The calls that take an event and fields. -/
def writers : List (String × JournalCall) :=
  Level.all.map (fun level => (level.name, entry level)) ++
    [("msg", entry .info), ("warn", entry .warning), ("fatal", entry .critical),
      ("exception", caught)]

/-- The parts of a journal that a caller sees but cannot call. -/
def partNames : List String :=
  ["_logger", "_processors", "_context", "_initial_values", "_wrapper_class", "_context_class",
    "_cache_logger_on_first_use", "_logger_factory_args"]

/-- What everything answers to, between double underscores, but without an event. -/
def inherentNames : List String :=
  ["str", "repr", "hash", "dir", "sizeof", "reduce", "getstate", "dict", "doc", "module", "weakref",
    "init_subclass", "new", "setattr", "annotations"]

/-- The names of comparisons, between double underscores. -/
def comparisonNames : List String := ["eq", "ne", "lt", "le", "gt", "ge", "subclasshook"]

/-- The call with this name, which stands between double underscores. -/
def inherent? (name : String) : Option JournalCall :=
  match name with
  | "format" => some description
  | "reduce_ex" => some disassembly
  | "getattr" => some part
  | "getattribute" | "delattr" => some ownPart
  | "setstate" => some parts
  | "class" | "init" => some another
  | _ =>
    if comparisonNames.contains name then some comparison
    else if inherentNames.contains name then some eventless
    else none

/-- The parts that a journal can be made of beside the first one. -/
def makings : List Text :=
  ["wrapper_class", "processors", "context_class", "cache_logger_on_first_use", "initial_values",
    "logger_factory_args"]

/-- A name without the double underscores around it; without them there is none. -/
def unframed (name : String) : String :=
  let frame := ['_', '_']
  let inner := name.toList.drop frame.length
  if frame.isPrefixOf name.toList && frame.isSuffixOf inner then
    String.ofList (inner.take (inner.length - frame.length))
  else ""

/-- The call with this name. Every call that takes an event and fields can be put off. -/
def ofName? (name : String) : Option JournalCall :=
  match name with
  | "bind" | "new" | "get_effective_level" => some eventless
  | "is_enabled_for" => some query
  | "unbind" => some release
  | "try_unbind" => some discard
  | "log" => some ranked
  | "alog" => some deferredRanked
  | "_proxy_to_logger" => some handed
  | "_process_event" => some processed
  | _ =>
    if partNames.contains name then some eventless
    else if let some call := inherent? (unframed name) then some call
    else match writers.find? (·.1 == name), writers.find? ("a" ++ ·.1 == name) with
      | some (_, call), _ => some call
      | none, some _ => some deferred
      | none, none => none

end JournalCall

/-- The level with the rank that a value equals, if there is one. -/
def Level.ofRank? (v : Json) : Option Level :=
  all.find? fun level => Json.same v (.int (level.rank : Int))

namespace Journal

/-- The names under which the writer of entries can be told to write one. -/
def writerNames : List String :=
  ["msg", "log", "debug", "info", "warn", "warning", "error", "critical", "failure", "err",
    "exception", "fatal"]

/-- The level under which a writer of this name files an entry. -/
def levelOf (writer : Json) : Json :=
  if writer == .string "warn" then .string "warning"
  else if writer == .string "exception" then .string "error"
  else writer

/-- The mark of an entry about an error that was caught, unless it has one. -/
def caughtMark (writer : Json) (fields : Fields) : Fields :=
  if writer == .string "exception" && (Json.lookup "exc_info" fields).isNone then
    [("exc_info", .bool true)]
  else []

/-- Files an entry as a writer of this name does. -/
def file (writer event : Json) (fields : Fields) (j : Journal) : Except Breakdown Journal :=
  let own := Json.putAll j.bound fields
  j.add ⟨levelOf writer, event, Json.putAll own (caughtMark writer own), true⟩

/-- Files an entry whose event, if it has one, is among its fields. -/
def fileFields (writer : Json) (fields : Fields) (j : Journal) : Except Breakdown Journal :=
  j.file writer ((Json.lookup "event" fields).getD .null) (fields.filter (·.1 != "event"))

/-- Breaks down where arguments are not what a call takes. -/
def expect (holds : Bool) : Except Breakdown Unit :=
  if holds then .ok () else .error .wrongType

/-- Makes a call. Fields may not have the names of a call's own parameters. -/
def call (name : Text) (event : Json) (fields : Fields) (j : Journal) :
    Except Breakdown Journal := do
  let has (field : Text) : Bool := (Json.lookup field fields).isSome
  match name.string?.bind JournalCall.ofName? with
  | none => .error .absentAttribute
  | some (.entry level) =>
    expect !(has "event" || has "self" || (j.shows level && has "method_name"))
    j.note level event fields
  | some .caught =>
    expect !(has "event" || has "self" || (j.shows .error && has "method_name"))
    j.note .error event (Json.putAll (caughtMark (.string "exception") fields) fields)
  | some .ranked =>
    expect (has "event" && !has "level" && !has "self")
    if ← Json.less event (.int j.threshold) then return j
    match Level.ofRank? event with
    | none => .error .absentKey
    | some level =>
      expect !(has "method_name")
      j.fileFields (.string level.name) fields
  | some .handed =>
    expect !(has "method_name" || has "self")
    let written ← j.fileFields event fields
    match event with
    | .text writer =>
      if writer.string?.any writerNames.contains then return written
      .error .absentAttribute
    | _ => .error .wrongType
  | some .processed =>
    match fields.length, Json.lookup "event" fields, Json.lookup "event_kw" fields with
    | 2, some what, some (.record own) => j.file event what own
    | _, _, _ => .error .wrongType
  | some .deferred =>
    expect !(has "event" || has "self")
    return j
  | some .deferredRanked =>
    expect (has "event" && !has "level" && !has "self")
    return j
  | some .query =>
    expect (event.isNumber && fields.isEmpty)
    return j
  | some .release =>
    expect fields.isEmpty
    match event with
    | .list _ | .record _ => .error .wrongType
    | _ => .error .absentKey
  | some .discard =>
    expect fields.isEmpty
    return j
  | some .comparison =>
    expect fields.isEmpty
    return j
  | some .description =>
    expect (fields.isEmpty && event == .string "")
    return j
  | some .disassembly =>
    expect (fields.isEmpty && event.whole?.isSome)
    return j
  | some .part =>
    expect (fields.isEmpty && event.text?.isSome)
    if (event.string?.bind JournalCall.ofName?).isSome then return j
    .error .absentAttribute
  | some .ownPart =>
    expect (fields.isEmpty && event.text?.isSome)
    .error .absentAttribute
  | some .parts =>
    expect fields.isEmpty
    match event with
    | .record _ => return j
    | _ => .error .absentAttribute
  | some .another =>
    expect (fields.all fun field => JournalCall.makings.contains field.1)
    return j
  | some .eventless => .error .wrongType

end Journal

end TradingEngine
