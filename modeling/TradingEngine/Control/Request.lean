import TradingEngine.Control.Target
import TradingEngine.Json.Arithmetic
import TradingEngine.Json.Parser
import TradingEngine.Json.Printer

/-! # Requests to the control surface

A request as it arrives and the response to it, and what the body of a request is taken for. Only a
body whose content type says so is read as JSON.
-/

namespace TradingEngine

/-- A request as it arrives. -/
structure ControlRequest where
  method : String
  path : String
  query : List (String × String) := []
  headers : List (String × String) := []
  body : String := ""
  /-- The scheme of the connection on which it arrives. -/
  scheme : String := "http"
  deriving DecidableEq, Repr

/-- What a response holds: a value, or everything that is wrong with a request's body. -/
inductive ResponseContent where
  | value (v : Json)
  | problems (ps : List Problem)
  deriving BEq, Repr

structure ControlResponse where
  status : Nat
  content : ResponseContent
  /-- Where the request is to be sent instead. -/
  location : Option String := none
  deriving BEq, Repr

/-- What the body of a request holds. -/
inductive RequestBody where
  | absent
  /-- A text that is not to be read as JSON. -/
  | plain
  | json (v : Json)
  /-- What should be JSON is none, from this character on. -/
  | malformed (position : Nat)
  /-- What should be JSON cannot be read at all: its bytes spell no text, or it goes beyond the
      bounds. -/
  | unreadable
  deriving BEq, Repr

namespace ControlRequest

/-- The value of the first header with this name, in whatever case. -/
def header? (r : ControlRequest) (name : String) : Option String :=
  (r.headers.find? (·.1.toLower == name.toLower)).map (·.2)

/-- The value of a field of the query; the last one, if it stands there more than once. -/
def field? (r : ControlRequest) (name : String) : Option String :=
  (r.query.reverse.find? (·.1 == name)).map (·.2)

/-- The blanks that may stand around a content type: those around numbers, and the four separators
    of ASCII. -/
def isBlank (c : Char) : Bool := Numeral.isBlank c || (0x1C ≤ c.toNat && c.toNat ≤ 0x1F)

/-- Whether a content type announces JSON. Its parameters do not matter. -/
def announcesJson (contentType : String) : Bool :=
  let unled := (contentType.toList.takeWhile (· != ';')).dropWhile isBlank
  let essence := (unled.reverse.dropWhile isBlank).reverse
  let kind := (essence.takeWhile (· != '/')).map Char.toLower
  let subtype := ((essence.dropWhile (· != '/')).drop 1).map Char.toLower
  kind == "application".toList && !subtype.contains '/' &&
    (subtype == "json".toList || "+json".toList.isSuffixOf subtype)

/-- How far the body of a request is read. -/
def bounds : Json.Bounds := ⟨945, Numeral.digitLimit⟩

/-- What a body that should be JSON holds. -/
def jsonContent (body : String) : RequestBody :=
  match Encoding.json? body.toUTF8.toList with
  | none => .unreadable
  | some t =>
    match Json.parseText bounds t with
    | .ok v => .json v
    | .error (.malformed left) => .malformed (t.letters.length - left)
    | .error .excessive => .unreadable

/-- A method in capitals. Of the characters beyond ASCII only those matter that have their capitals
    in it. -/
def capitals (method : String) : String :=
  String.ofList (method.toList.flatMap fun c =>
    if c = '\u017F' then ['S']
    else if c = '\uFB05' || c = '\uFB06' then ['S', 'T']
    else [c.toUpper])

/-- A text as it is sent in a header, in ASCII. -/
def headerText (t : Text) : Except Fault String :=
  match t.string? with
  | some s => if s.toList.all (·.toNat < 128) then .ok s else .error (.breakdown .notEncodable)
  | none => .error (.breakdown .notEncodable)

/-- The headers as they are sent. Their values have to be texts. -/
def headersOf (fields : Fields) : Except Fault (List (String × String)) :=
  fields.mapM fun (name, value) => do
    let name ← headerText name
    match value with
    | .text t => return (name, ← headerText t)
    | _ => .error (.breakdown .wrongType)

/-- The request without headers of this name. -/
def without (name : String) (r : ControlRequest) : ControlRequest :=
  { r with headers := r.headers.filter fun header => header.1.toLower != name.toLower }

/-- The request with this header in the place of all others of its name. -/
def withHeader (name value : String) (r : ControlRequest) : ControlRequest :=
  { r with headers := (name, value) :: (r.without name).headers }

def queryLimit : Nat := 65536

/-- The request with the fields that values stand for as its query. -/
def asking (values : Fields) (r : ControlRequest) : Except Fault ControlRequest := do
  let query ← Target.fieldsOf values
  if (Target.queryText query).length > queryLimit then .error (.breakdown .badTarget)
  return { r with query }

/-- The request with a body that is sent as text. -/
def carrying (body : Text) (r : ControlRequest) : Except Fault ControlRequest :=
  match body.string? with
  | some body => .ok { r with body }
  | none => .error (.breakdown .notEncodable)

/-- The request with a body that is sent as JSON. -/
def sending (v : Json) (r : ControlRequest) : Except Fault ControlRequest :=
  match v.checkSent with
  | .ok () =>
    .ok { r with
      headers := r.headers ++ [("content-type", "application/json")]
      body := String.ofList v.render }
  | .error b => .error (.breakdown b)

def content (r : ControlRequest) : RequestBody :=
  if r.body = "" then .absent
  else match r.header? "content-type" with
    | some type => if announcesJson type then jsonContent r.body else .plain
    | none => .plain

end ControlRequest

end TradingEngine
