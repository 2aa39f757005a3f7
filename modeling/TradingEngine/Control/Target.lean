import TradingEngine.Failure.Basic
import TradingEngine.Text.Encoding

/-! # Request targets

A target is a path and, behind a question mark, fields joined by ampersands. Both may hold escaped
bytes, a per cent sign and two hexadecimal digits each; the bytes spell text in UTF-8. In a field a
plus sign stands for a blank.
-/

namespace TradingEngine.Target

/-- The value of a hexadecimal digit in either case. -/
def hexValue? (c : Char) : Option Nat :=
  if c.isDigit then some (Numeral.digitValue c)
  else if 'a' ≤ c && c ≤ 'f' then some (c.toNat - 'a'.toNat + 10)
  else if 'A' ≤ c && c ≤ 'F' then some (c.toNat - 'A'.toNat + 10)
  else none

/-- The bytes that a text stands for. A per cent sign without two digits stands for itself. -/
def bytes : List Char → List UInt8
  | [] => []
  | '%' :: a :: b :: rest =>
    match hexValue? a, hexValue? b with
    | some high, some low => UInt8.ofNat (high * 16 + low) :: bytes rest
    | _, _ => '%'.toString.toUTF8.toList ++ bytes (a :: b :: rest)
  | c :: rest => c.toString.toUTF8.toList ++ bytes rest

/-- The text behind escapes. -/
def unescape (cs : List Char) : String := String.ofList (Encoding.utf8 (bytes cs))

/-- The text behind a field's escapes. -/
def unescapeField (cs : List Char) : String :=
  unescape (cs.map fun c => if c = '+' then ' ' else c)

def escapedByte (b : UInt8) : List Char :=
  ['%', (Numeral.hexDigit (b.toNat / 16)).toUpper, (Numeral.hexDigit (b.toNat % 16)).toUpper]

/-- A text with every character escaped that may not stand for itself. -/
def escape (isSafe : Char → Bool) (cs : List Char) : List Char :=
  cs.flatMap fun c => if isSafe c then [c] else c.toString.toUTF8.toList.flatMap escapedByte

/-- Whether a character never needs to be escaped. -/
def isUnreserved (c : Char) : Bool :=
  c.isAlphanum || c == '-' || c == '.' || c == '_' || c == '~'

/-- The parts of a text between separators. -/
def parts (separator : Char) : List Char → List (List Char)
  | [] => [[]]
  | c :: rest =>
    if c = separator then [] :: parts separator rest
    else match parts separator rest with
      | first :: more => (c :: first) :: more
      | [] => [[c]]

/-- A field is a name and, behind the first equals sign, a value. -/
def field (cs : List Char) : String × String :=
  (unescapeField (cs.takeWhile (· != '=')), unescapeField ((cs.dropWhile (· != '=')).drop 1))

/-- The fields of a query; nothing between two ampersands is no field. -/
def query (cs : List Char) : List (String × String) :=
  ((parts '&' cs).filter (!·.isEmpty)).map field

/-- The query that spells these fields. -/
def queryText (fields : List (String × String)) : List Char :=
  let part (s : String) : List Char := escape isUnreserved s.toList
  ['&'].intercalate (fields.map fun (name, value) => part name ++ '=' :: part value)

/-- How a value is written in a query. -/
def written : Json → Except Fault Text
  | .bool true => .ok "true"
  | .bool false => .ok "false"
  | .null => .ok ""
  | v => v.inWords

/-- The fields that values stand for, as they are written; a list stands for one field per item. -/
def writtenFields (values : Fields) : Except Fault (List (Text × Text)) := do
  let rows ← values.mapM fun (name, value) =>
    match value with
    | .list items => items.mapM fun item => return (name, ← written item)
    | v => return [(name, ← written v)]
  return rows.flatten

/-- The fields that values stand for. A half of a surrogate pair cannot be escaped. -/
def fieldsOf (values : Fields) : Except Fault (List (String × String)) := do
  (← writtenFields values).mapM fun (name, value) =>
    match name.string?, value.string? with
    | some name, some value => .ok (name, value)
    | _, _ => .error (.breakdown .notEncodable)

/-- Takes the parts of a path one by one: one dot stays where it is, two dots lead back to where the
    last part started. The parts taken so far stand in `back`, the last one first. -/
def walk (back : List (List Char)) : List (List Char) → List (List Char)
  | [] => back.reverse
  | part :: rest =>
    if part = ['.'] then walk back rest
    else if part = ['.', '.'] then
      walk (if back.isEmpty || back = [[]] then back else back.drop 1) rest
    else walk (part :: back) rest

/-- The path without steps that lead nowhere or back. -/
def normalPath (cs : List Char) : List Char :=
  ['/'].intercalate (walk [] (parts '/' cs))

/-- The path and the query of a target; the query with the question mark before it. -/
def halves (target : List Char) : List Char × List Char :=
  (target.takeWhile (· != '?'), target.dropWhile (· != '?'))

/-- The target with its path in normal form. -/
def normal (target : List Char) : List Char :=
  let (path, query) := halves target
  normalPath path ++ query

/-- Whether a character may stand for itself in a target on its way. -/
def isTargetChar (c : Char) : Bool :=
  32 < c.toNat && c.toNat < 127 && !("\"<>`\x7b\x7d".toList.contains c)

/-- The path and the query of a target as they are sent. -/
def escapedParts (target : List Char) : List (List Char) :=
  let (path, query) := halves target
  [escape isTargetChar path, escape isTargetChar (query.drop 1)]

/-- The path that a written path stands for, which is at least the root. Escapes are resolved on
    both sides of the line, and so twice. -/
def path (cs : List Char) : String :=
  let steps := normalPath cs
  unescape (unescape (if steps.isEmpty then ['/'] else steps)).toList

/-- The path of a target and the fields behind it. -/
def parse (target : List Char) : String × List (String × String) :=
  (path (halves target).1, query ((halves target).2.drop 1))

end TradingEngine.Target
