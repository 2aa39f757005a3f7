import TradingEngine.Arithmetic.Double
import TradingEngine.Json.Value
import TradingEngine.Text.Numeral

/-! # Reading JSON text

The reader works on the letters that are still to be read. Where a text is refused, the fault says
how many letters were left at the refused place, so that a caller who knows the length of the whole
text knows the position. Beside the standard's values the names `NaN`, `Infinity` and `-Infinity`
are numbers. How deep values may be nested and how many digits a whole number may have is up to the
caller.
-/

namespace TradingEngine.Json

/-- How far a reader goes. -/
structure Bounds where
  /-- How deep lists and objects may be nested. -/
  depth : Nat
  /-- How many digits a whole number may have. -/
  digits : Nat
  deriving DecidableEq, Repr

/-- Why a text is not read. -/
inductive Unread where
  /-- The text is refused at a place from which this many letters were left. -/
  | malformed (lettersLeft : Nat)
  /-- The text goes beyond the bounds. -/
  | excessive
  deriving DecidableEq, Repr

/-- Refuses the text at the place where these letters stand. -/
def refuseAt {α : Type} (rest : List Letter) : Except Unread α := .error (.malformed rest.length)

/-- The four blanks that may stand between tokens. -/
def isSpace (l : Letter) : Bool := l.is ' ' || l.is '\t' || l.is '\n' || l.is '\r'

/-- The letters after any blanks. -/
def skipSpace (ls : List Letter) : List Letter := ls.dropWhile isSpace

def hexValue? : Letter → Option Nat
  | .char c =>
    if c.isDigit then some (c.toNat - '0'.toNat)
    else if 'a' ≤ c && c ≤ 'f' then some (c.toNat - 'a'.toNat + 10)
    else if 'A' ≤ c && c ≤ 'F' then some (c.toNat - 'A'.toNat + 10)
    else none
  | .half _ => none

/-- Four hexadecimal digits, and what follows them. -/
def unit? : List Letter → Option (Nat × List Letter)
  | a :: b :: c :: d :: rest => do
    let a ← hexValue? a
    let b ← hexValue? b
    let c ← hexValue? c
    let d ← hexValue? d
    return (((a * 16 + b) * 16 + c) * 16 + d, rest)
  | _ => none

/-- The letter of an escape of one letter. -/
def shortEscape? (l : Letter) : Option Letter :=
  if l.is '"' || l.is '\\' || l.is '/' then some l
  else if l.is 'b' then some (.char (Char.ofNat 8))
  else if l.is 'f' then some (.char (Char.ofNat 12))
  else if l.is 'n' then some (.char '\n')
  else if l.is 'r' then some (.char '\r')
  else if l.is 't' then some (.char '\t')
  else none

/-- Refuses a string that never closes, at its opening quote. These letters stand behind the
    quote. -/
def unclosed {α : Type} (behind : List Letter) : Except Unread α :=
  .error (.malformed (behind.length + 1))

/-- The letters of a string up to its closing quote; `behind` are those behind its opening quote.
    Two escaped halves that make a pair are one letter. `fuel` bounds the letters read. -/
def stringBody (behind : List Letter) :
    Nat → List Letter → List Letter → Except Unread (Text × List Letter)
  | 0, _, _ => unclosed behind
  | fuel + 1, read, ls =>
    match ls with
    | [] => unclosed behind
    | .char '"' :: rest => .ok (⟨read.reverse⟩, rest)
    | [.char '\\'] => unclosed behind
    | .char '\\' :: .char 'u' :: rest =>
      match rest with
      | _ :: _ :: _ :: _ :: _ :: _ =>
        match unit? rest with
        | none => refuseAt (.char 'u' :: rest)
        | some (first, more) =>
          match Letter.isHigh first, more with
          | true, .char '\\' :: .char 'u' :: _ :: _ :: _ :: _ :: _ :: _ =>
            match unit? (more.drop 2) with
            | none => refuseAt (more.drop 1)
            | some (second, after) =>
              if Letter.isLow second then
                stringBody behind fuel (Letter.ofPair first second :: read) after
              else stringBody behind fuel (Letter.ofCode first :: read) more
          | _, _ => stringBody behind fuel (Letter.ofCode first :: read) more
      | _ => refuseAt (.char 'u' :: rest)
    | .char '\\' :: l :: rest =>
      match shortEscape? l with
      | some e => stringBody behind fuel (e :: read) rest
      | none => refuseAt (.char '\\' :: l :: rest)
    | l :: rest =>
      if l.code < 32 then refuseAt ls else stringBody behind fuel (l :: read) rest

/-- A string whose opening quote has been read. `fuel` bounds the letters read. -/
def stringRest (fuel : Nat) (rest : List Letter) : Except Unread (Text × List Letter) :=
  stringBody rest fuel [] rest

/-- The plain digits at the head of a text. -/
def digitsAhead : List Letter → List Char
  | .char c :: rest => if c.isDigit then c :: digitsAhead rest else []
  | _ => []

/-- The fraction of a number: a point followed by at least one digit. -/
def fraction (ls : List Letter) : List Char × List Letter :=
  match ls with
  | .char '.' :: rest =>
    let ds := digitsAhead rest
    if ds.isEmpty then ([], ls) else (ds, rest.drop ds.length)
  | _ => ([], ls)

/-- The exponent of a number: the letter, an optional sign and at least one digit. -/
def exponent (ls : List Letter) : Option (Bool × Nat) × List Letter :=
  match ls with
  | l :: rest =>
    if l.is 'e' || l.is 'E' then
      let (negative, tail) := match rest with
        | .char '+' :: t => (false, t)
        | .char '-' :: t => (true, t)
        | t => (false, t)
      let ds := digitsAhead tail
      if ds.isEmpty then (none, ls)
      else (some (negative, Numeral.value ds), tail.drop ds.length)
    else (none, ls)
  | [] => (none, ls)

/-- The double nearest to mantissa * 10^power. -/
def nearestReal (mantissa : Nat) (power : Int) : Float :=
  if mantissa = 0 then 0.0
  else if 400 < power then 1.0 / 0.0
  else if power < -400 - ((Numeral.digits mantissa).length : Int) then 0.0
  else if 0 ≤ power then Double.ofRatio (mantissa * Nat.pow 10 power.toNat) 1
  else Double.ofRatio mantissa (Nat.pow 10 (-power).toNat)

/-- The digits at the head of a number; a zero stands alone. -/
def leadingDigits (ls : List Letter) : List Char :=
  match ls with
  | .char '0' :: _ => ['0']
  | _ => digitsAhead ls

/-- A number without its sign. -/
def magnitude (bounds : Bounds) (negative : Bool) (ls : List Letter) :
    Except Unread (Json × List Letter) :=
  let ds := leadingDigits ls
  let (decimals, afterFraction) := fraction (ls.drop ds.length)
  let (power, rest) := exponent afterFraction
  if decimals.isEmpty && power.isNone then
    if ds.length > bounds.digits then .error .excessive
    else
      let n : Int := Numeral.value ds
      .ok (.int (if negative then -n else n), rest)
  else
    let shift : Int := match power with
      | some (true, e) => -(e : Int)
      | some (false, e) => e
      | none => 0
    let x := nearestReal (Numeral.value (ds ++ decimals)) (shift - decimals.length)
    .ok (.real (if negative then -x else x), rest)

/-- A number, or a refusal where none starts. -/
def number (bounds : Bounds) (ls : List Letter) : Except Unread (Json × List Letter) :=
  let (negative, unsigned) := match ls with
    | .char '-' :: rest => (true, rest)
    | _ => (false, ls)
  if (leadingDigits unsigned).isEmpty then refuseAt ls else magnitude bounds negative unsigned

/-- A value that is written as a name, and what follows it. -/
def named? (ls : List Letter) : Option (Json × List Letter) :=
  let names : List (String × Json) :=
    [("null", .null), ("true", .bool true), ("false", .bool false), ("NaN", .real (0.0 / 0.0)),
      ("Infinity", .real (1.0 / 0.0)), ("-Infinity", .real (-1.0 / 0.0))]
  names.findSome? fun (name, v) =>
    if (Text.ofString name).letters.isPrefixOf ls then some (v, ls.drop name.length) else none

mutual

/-- One value at the head of the text, at a depth at which `room` more lists and objects may be
    nested. `fuel` bounds the steps taken. -/
def value (bounds : Bounds) : Nat → Nat → List Letter → Except Unread (Json × List Letter)
  | 0, _, ls => refuseAt ls
  | fuel + 1, room, ls =>
    match ls with
    | .char '"' :: rest => do
      let (s, rest) ← stringRest fuel rest
      return (.text s, rest)
    | .char '{' :: rest =>
      if room = 0 then .error .excessive
      else match skipSpace rest with
        | .char '}' :: after => .ok (.record [], after)
        | inner => members bounds fuel (room - 1) [] inner
    | .char '[' :: rest =>
      if room = 0 then .error .excessive
      else match skipSpace rest with
        | .char ']' :: after => .ok (.list [], after)
        | inner => elements bounds fuel (room - 1) [] inner
    | _ =>
      match named? ls with
      | some found => .ok found
      | none => number bounds ls

def members (bounds : Bounds) :
    Nat → Nat → Fields → List Letter → Except Unread (Json × List Letter)
  | 0, _, _, ls => refuseAt ls
  | fuel + 1, room, read, ls =>
    match ls with
    | .char '"' :: rest => do
      let (key, rest) ← stringRest fuel rest
      match skipSpace rest with
      | .char ':' :: rest =>
        let (v, rest) ← value bounds fuel room (skipSpace rest)
        match skipSpace rest with
        | .char '}' :: after => return (.record (put key v read), after)
        | .char ',' :: more => members bounds fuel room (put key v read) (skipSpace more)
        | other => refuseAt other
      | other => refuseAt other
    | _ => refuseAt ls

def elements (bounds : Bounds) :
    Nat → Nat → List Json → List Letter → Except Unread (Json × List Letter)
  | 0, _, _, ls => refuseAt ls
  | fuel + 1, room, read, ls => do
    let (v, rest) ← value bounds fuel room ls
    match skipSpace rest with
    | .char ']' :: after => return (.list (v :: read).reverse, after)
    | .char ',' :: more => elements bounds fuel room (v :: read) (skipSpace more)
    | other => refuseAt other

end

/-- A whole text: one value with blanks around it. Between two letters there are at most two
    steps. -/
def parseText (bounds : Bounds) (t : Text) : Except Unread Json := do
  let ls := t.letters
  let (v, rest) ← value bounds (2 * ls.length + 2) bounds.depth (skipSpace ls)
  match skipSpace rest with
  | [] => return v
  | extra => refuseAt extra

/-- The value of a whole text, with no bounds. -/
def parse? (s : String) : Option Json :=
  (parseText ⟨s.length, s.length⟩ s).toOption

end TradingEngine.Json
