import TradingEngine.Json.Value
import TradingEngine.Text.Numeral
import TradingEngine.Text.Shortest

/-! # Canonical JSON text

One value has one text: keys in code-point order at every level, a blank after each comma and each
colon, and ASCII characters only. A character outside the printable ASCII range is written as one or
two `\uXXXX` units, and a half of a pair that stands alone as one.
-/

namespace TradingEngine.Json

/-- A 16-bit unit in escaped form. -/
def escapedUnit (n : Nat) : List Char :=
  ['\\', 'u', Numeral.hexDigit (n / 4096 % 16), Numeral.hexDigit (n / 256 % 16),
    Numeral.hexDigit (n / 16 % 16), Numeral.hexDigit (n % 16)]

/-- One character of a string, escaped where it has to be. A character above 16 bits is written as
    its surrogate pair. -/
def escapedChar (c : Char) : List Char :=
  if c = '"' then ['\\', '"']
  else if c = '\\' then ['\\', '\\']
  else if c = '\n' then ['\\', 'n']
  else if c = '\r' then ['\\', 'r']
  else if c = '\t' then ['\\', 't']
  else if c.toNat = 8 then ['\\', 'b']
  else if c.toNat = 12 then ['\\', 'f']
  else if 32 ≤ c.toNat && c.toNat < 127 then [c]
  else if c.toNat < 0x10000 then escapedUnit c.toNat
  else
    escapedUnit (0xD800 + (c.toNat - 0x10000) / 0x400) ++
      escapedUnit (0xDC00 + (c.toNat - 0x10000) % 0x400)

/-- One letter of a string, escaped where it has to be. -/
def escaped : Letter → List Char
  | .char c => escapedChar c
  | .half offset => escapedUnit (Letter.half offset).code

def quoted (t : Text) : List Char := '"' :: t.letters.flatMap escaped ++ ['"']

/-- The text of a double; the three values without digits have names of their own. -/
def realText (x : Float) : List Char :=
  if x.isNaN then ['N', 'a', 'N']
  else if x.isInf then
    if x < 0.0 then "-Infinity".toList else "Infinity".toList
  else Shortest.text x

mutual

/-- The text of a value, with object keys in the order in which they stand. -/
def render : Json → List Char
  | .null => ['n', 'u', 'l', 'l']
  | .bool true => ['t', 'r', 'u', 'e']
  | .bool false => ['f', 'a', 'l', 's', 'e']
  | .int n => Numeral.ofInt n
  | .real x => realText x
  | .text s => quoted s
  | .list [] => ['[', ']']
  | .list (x :: xs) => '[' :: render x ++ renderItems xs
  | .record [] => ['{', '}']
  | .record ((k, v) :: fs) => '{' :: quoted k ++ ':' :: ' ' :: render v ++ renderFields fs

def renderItems : List Json → List Char
  | [] => [']']
  | x :: xs => ',' :: ' ' :: render x ++ renderItems xs

def renderFields : Fields → List Char
  | [] => ['}']
  | (k, v) :: fs => ',' :: ' ' :: quoted k ++ ':' :: ' ' :: render v ++ renderFields fs

end

/-- Puts a field before the first one with a greater key. -/
def insertField (key : Text) (value : Json) : Fields → Fields
  | [] => [(key, value)]
  | (k, v) :: rest =>
    if key.order k == .lt then (key, value) :: (k, v) :: rest
    else (k, v) :: insertField key value rest

mutual

/-- The value with the keys of every object in code-point order. -/
def sorted : Json → Json
  | .list xs => .list (sortedItems xs)
  | .record fs => .record (sortedFields fs)
  | v => v

def sortedItems : List Json → List Json
  | [] => []
  | x :: xs => sorted x :: sortedItems xs

def sortedFields : Fields → Fields
  | [] => []
  | (k, v) :: fs => insertField k (sorted v) (sortedFields fs)

end

def canonical (v : Json) : String := String.ofList (render (sorted v))

end TradingEngine.Json
