import TradingEngine.Text.Basic

/-! # Decimal numerals

Digits of a natural number, the value of a row of digits, and two ways to read a whole number from
text. A record's number may have blanks around it, a sign, zeros in front, single underscores
between its digits and a fraction of zeros. A plain numeral may have blanks, a sign and underscores,
and its digits may be the decimal digits of any script. Both have at most `digitLimit` digits, and
so has every whole number that is written as text.
-/

namespace TradingEngine.Numeral

/-- The character of a digit below ten. -/
def digitChar (d : Nat) : Char := Char.ofNat ('0'.toNat + d)

/-- The value of a digit character. -/
def digitValue (c : Char) : Nat := c.toNat - '0'.toNat

/-- The hexadecimal digit of a number below sixteen, in lower case. -/
def hexDigit (d : Nat) : Char :=
  if d < 10 then digitChar d else Char.ofNat ('a'.toNat + (d - 10))

/-- The decimal digits of a number, without leading zeros. -/
def digits (n : Nat) : List Char :=
  if n < 10 then [digitChar n] else digits (n / 10) ++ [digitChar (n % 10)]
termination_by n
decreasing_by omega

/-- The number that a row of digits stands for. -/
def value (ds : List Char) : Nat := ds.foldl (fun n c => n * 10 + digitValue c) 0

/-- The written form of a whole number. -/
def ofInt : Int → List Char
  | .ofNat n => digits n
  | .negSucc n => '-' :: digits (n + 1)

/-- The blanks that may surround a number: every character with the property `White_Space`. -/
def isBlank (c : Char) : Bool :=
  let n := c.toNat
  (9 ≤ n && n ≤ 13) || n == 0x20 || n == 0x85 || n == 0xA0 || n == 0x1680 ||
    (0x2000 ≤ n && n ≤ 0x200A) || n == 0x2028 || n == 0x2029 || n == 0x202F || n == 0x205F ||
    n == 0x3000

/-- The text without the blanks around it. -/
def strip (cs : List Char) : List Char :=
  ((cs.dropWhile isBlank).reverse.dropWhile isBlank).reverse

/-- The most digits that are read or written. -/
def digitLimit : Nat := 4300

/-- The least magnitude that has more digits than are read or written. -/
def magnitudeLimit : Nat := Nat.pow 10 digitLimit

/-- Whether a whole number has no more digits than are written. -/
def isWritable (n : Int) : Bool := n.natAbs < magnitudeLimit

/-- Whether two underscores stand side by side. -/
def doubled : List Char → Bool
  | '_' :: '_' :: _ => true
  | _ :: rest => doubled rest
  | [] => false

/-- Whether every underscore stands alone between two other characters. -/
def isGrouped (cs : List Char) : Bool :=
  cs.head? != some '_' && cs.getLast? != some '_' && !doubled cs

/-! ### Numbers of records -/

/-- Why a text is not read as a whole number. -/
inductive Misread where
  | malformed
  /-- The number has more digits than are read. -/
  | tooLong
  deriving DecidableEq, Repr

/-- A row of digits without zeros in front. Too many digits are noticed before anything that may
    stand behind them. -/
def bare? (cs : List Char) : Except Misread Nat :=
  let ds := cs.takeWhile Char.isDigit
  if ds.isEmpty || (ds.length > 1 && ds.head? == some '0') then .error .malformed
  else if ds.length > digitLimit then .error .tooLong
  else if ds.length < cs.length then .error .malformed
  else .ok (value ds)

/-- A whole number in its one written form. -/
def strict? : List Char → Except Misread Int
  | '-' :: cs => (bare? cs).map fun n => -(n : Int)
  | cs => (bare? cs).map fun n => (n : Int)

/-- What is left behind the zeros and underscores that follow a first zero: the rest from the first
    other digit or minus sign on, or from the place before a point. `last` is the character before
    `cs`; of nothing but zeros the last one is left. -/
def behindZeros (last : Char) : List Char → Option (List Char)
  | [] => some [last]
  | c :: rest =>
    if c = '0' || c = '_' then behindZeros c rest
    else if c.isDigit || c = '-' then some (c :: rest)
    else if c = '.' then some (last :: c :: rest)
    else none

/-- The text without zeros in front. It has to begin with a digit. -/
def dropZeros : List Char → Option (List Char)
  | '0' :: rest => behindZeros '0' rest
  | c :: rest => if c.isDigit then some (c :: rest) else none
  | [] => none

/-- A text without a sign, and whether that was a minus sign. -/
def splitSign : List Char → Bool × List Char
  | '-' :: rest => (true, rest)
  | '+' :: rest => (false, rest)
  | cs => (false, cs)

/-- The text without a fraction of one or more zeros. -/
def dropFraction (cs : List Char) : List Char :=
  match cs.dropWhile (· != '.') with
  | _ :: zeros =>
    if !zeros.isEmpty && zeros.all (· == '0') then cs.takeWhile (· != '.') else cs
  | [] => cs

/-- The text without its underscores, if all of them join digits. -/
def dropUnderscores (cs : List Char) : List Char :=
  if isGrouped cs then cs.filter (· != '_') else cs

/-- The written form that a lenient text stands for. -/
def cleaned (cs : List Char) : Option (List Char) := do
  let (isNegative, unsigned) := splitSign (strip cs)
  let ds := dropUnderscores (dropFraction (← dropZeros unsigned))
  return if isNegative then '-' :: ds else ds

/-- The whole number that a text stands for under the lenient rule of records. A text in the written
    form may turn out too long; any other is malformed then. -/
def int? (cs : List Char) : Except Misread Int :=
  match strict? cs with
  | .error .malformed =>
    match (cleaned cs).map strict? with
    | some (.ok n) => .ok n
    | _ => .error .malformed
  | read => read

/-! ### Plain numerals -/

/-- The zeros of every script that has decimal digits; each is followed by its nine others. -/
def zeros : List Nat :=
  [0x30, 0x660, 0x6f0, 0x7c0, 0x966, 0x9e6, 0xa66, 0xae6, 0xb66, 0xbe6, 0xc66, 0xce6, 0xd66,
    0xde6, 0xe50, 0xed0, 0xf20, 0x1040, 0x1090, 0x17e0, 0x1810, 0x1946, 0x19d0, 0x1a80, 0x1a90,
    0x1b50, 0x1bb0, 0x1c40, 0x1c50, 0xa620, 0xa8d0, 0xa900, 0xa9d0, 0xa9f0, 0xaa50, 0xabf0,
    0xff10, 0x104a0, 0x10d30, 0x11066, 0x110f0, 0x11136, 0x111d0, 0x112f0, 0x11450, 0x114d0,
    0x11650, 0x116c0, 0x11730, 0x118e0, 0x11950, 0x11c50, 0x11d50, 0x11da0, 0x16a60, 0x16ac0,
    0x16b50, 0x1d7ce, 0x1d7d8, 0x1d7e2, 0x1d7ec, 0x1d7f6, 0x1e140, 0x1e2f0, 0x1e950, 0x1fbf0]

/-- The value of a decimal digit of any script. -/
def anyDigit? (c : Char) : Option Nat :=
  (zeros.find? fun first => first ≤ c.toNat && c.toNat < first + 10).map (c.toNat - ·)

/-- The character that a letter is taken for: digits of every script for plain digits, and a
    question mark for what has no place in a numeral. -/
def plainChar : Letter → Char
  | .char c =>
    if isBlank c then ' '
    else match anyDigit? c with
      | some d => digitChar d
      | none => if c.toNat < 128 then c else '?'
  | .half _ => '?'

/-- Why a text is no plain numeral. -/
inductive NumeralFault where
  | malformed
  /-- The numeral has this many digits, more than are read. -/
  | tooLong (digits : Nat)
  deriving DecidableEq, Repr

/-- A numeral without a sign, and what may stand behind it. Underscores are looked at first, then
    the number of digits, and then what follows them. -/
def plainDigits? (cs : List Char) : Except NumeralFault Nat :=
  let run := cs.takeWhile fun c => c.isDigit || c == '_'
  let ds := run.filter (· != '_')
  if run.isEmpty || !isGrouped run then .error .malformed
  else if ds.length > digitLimit then .error (.tooLong ds.length)
  else if !(cs.drop run.length).all (· == ' ') then .error .malformed
  else .ok (value ds)

/-- The whole number that a plain numeral stands for. -/
def numeral? (t : Text) : Except NumeralFault Int :=
  let cs := (t.letters.map plainChar).dropWhile (· == ' ')
  match cs with
  | '-' :: rest => (plainDigits? rest).map fun n => -(n : Int)
  | '+' :: rest => (plainDigits? rest).map fun n => (n : Int)
  | rest => (plainDigits? rest).map fun n => (n : Int)

end TradingEngine.Numeral
