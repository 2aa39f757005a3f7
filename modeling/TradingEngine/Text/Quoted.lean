import TradingEngine.Text.Numeral
import TradingEngine.Text.Printable

/-! # Quoted text

A text between quotes, with everything in it that could be misread escaped. Apostrophes are the
quotes, unless the text holds apostrophes and no double quote.
-/

namespace TradingEngine.Quoted

/-- A number below 16^`width` in that many hexadecimal digits. -/
def hex (width n : Nat) : List Char :=
  (List.range width).reverse.map fun place => Numeral.hexDigit (n / Nat.pow 16 place % 16)

/-- The quote that a text is put between. -/
def mark (t : Text) : Char :=
  if t.letters.any (·.is '\'') && !t.letters.any (·.is '"') then '"' else '\''

/-- The number of a letter, escaped in as few digits as there are forms for. -/
def number (n : Nat) : List Char :=
  if n < 0x100 then '\\' :: 'x' :: hex 2 n
  else if n < 0x10000 then '\\' :: 'u' :: hex 4 n
  else '\\' :: 'U' :: hex 8 n

/-- One letter between these quotes. -/
def escaped (quote : Char) : Letter → List Char
  | .half offset => number (Letter.half offset).code
  | .char c =>
    if c = quote || c = '\\' then ['\\', c]
    else if c = '\n' then ['\\', 'n']
    else if c = '\r' then ['\\', 'r']
    else if c = '\t' then ['\\', 't']
    else if Printable.isPrintable c then [c]
    else number c.toNat

def quoted (t : Text) : String :=
  let quote := mark t
  String.ofList (quote :: t.letters.flatMap (escaped quote) ++ [quote])

end TradingEngine.Quoted
