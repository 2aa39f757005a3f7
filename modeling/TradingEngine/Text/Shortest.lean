import TradingEngine.Arithmetic.Double
import TradingEngine.Text.Numeral

/-! # Shortest decimal text of a double

A double is written with the fewest digits that read back to it, and of the candidates with that
many digits the nearest one. Magnitudes from 0.0001 to below 10^16 are written positionally, the
others with a signed exponent of at least two digits; a whole number keeps its `.0`.

All work is exact: the double is taken apart into m * 2^q, and candidates are compared with the ends
of the interval of reals that round to it.
-/

namespace TradingEngine.Shortest

open Double

/-- A positive rational, as numerator and denominator. -/
structure Ratio where
  num : Nat
  den : Nat

/-- The rational n * 2^q. -/
def scaled (n : Nat) (q : Int) : Ratio :=
  if 0 ≤ q then ⟨n * Nat.pow 2 q.toNat, 1⟩ else ⟨n, Nat.pow 2 (-q).toNat⟩

/-- The rational d * 10^e. -/
def decimal (d : Nat) (e : Int) : Ratio :=
  if 0 ≤ e then ⟨d * Nat.pow 10 e.toNat, 1⟩ else ⟨d, Nat.pow 10 (-e).toNat⟩

def Ratio.le (a b : Ratio) : Bool := a.num * b.den ≤ b.num * a.den

def Ratio.lt (a b : Ratio) : Bool := a.num * b.den < b.num * a.den

def Ratio.distance (a b : Ratio) : Ratio :=
  let x := a.num * b.den
  let y := b.num * a.den
  ⟨(x - y) + (y - x), a.den * b.den⟩

/-- The exponent of the first decimal digit of a positive rational above 10^-400. -/
def leadingExponent (v : Ratio) : Int :=
  ((Numeral.digits (v.num * Nat.pow 10 400 / v.den)).length : Int) - 401

/-- The nearest numeral with `n` digits that reads back as m * 2^q, with its last digit's
    exponent. -/
def candidate? (p : Parts) (n : Nat) : Option (Nat × Int) :=
  let v := scaled (4 * p.significand) (p.power - 2)
  let below := if p.significand = Nat.pow 2 52 && p.power > -1074 then 1 else 2
  let low := scaled (4 * p.significand - below) (p.power - 2)
  let high := scaled (4 * p.significand + 2) (p.power - 2)
  let reads (r : Ratio) : Bool :=
    if p.significand % 2 = 0 then low.le r && r.le high else low.lt r && r.lt high
  let e := leadingExponent v + 1 - n
  let floor :=
    if 0 ≤ e then v.num / (v.den * Nat.pow 10 e.toNat) else v.num * Nat.pow 10 (-e).toNat / v.den
  let lower := decimal floor e
  let upper := decimal (floor + 1) e
  match reads lower, reads upper with
  | true, true =>
    let down := v.distance lower
    let up := v.distance upper
    if down.lt up then some (floor, e)
    else if up.lt down then some (floor + 1, e)
    else if floor % 2 = 0 then some (floor, e) else some (floor + 1, e)
  | true, false => some (floor, e)
  | false, true => some (floor + 1, e)
  | false, false => none

/-- The shortest numeral of m * 2^q: its digits and the exponent of its last digit. -/
def shortest (p : Parts) : Nat × Int :=
  ((List.range 17).findSome? fun n => candidate? p (n + 1)).getD (p.significand, 0)

/-- The text of a positive magnitude. -/
def magnitudeText (p : Parts) : List Char :=
  let (d, last) := shortest p
  let all := Numeral.digits d
  let ds := (all.reverse.dropWhile (· == '0')).reverse
  let e := last + (all.length - ds.length : Nat)
  let lead := e + ds.length - 1
  if -4 ≤ lead && lead < 16 then
    if lead < 0 then
      '0' :: '.' :: List.replicate (-lead - 1).toNat '0' ++ ds
    else if 0 ≤ e then
      ds ++ List.replicate e.toNat '0' ++ ['.', '0']
    else
      ds.take (lead + 1).toNat ++ '.' :: ds.drop (lead + 1).toNat
  else
    let fraction := match ds with
      | [] => []
      | [c] => [c]
      | c :: more => c :: '.' :: more
    let size := Numeral.digits lead.natAbs
    fraction ++ 'e' :: (if lead < 0 then '-' else '+') ::
      List.replicate (2 - size.length) '0' ++ size

def text (x : Float) : List Char :=
  let sign := if isNegative x then ['-'] else []
  if x.isNaN then ['n', 'a', 'n']
  else if x.isInf then sign ++ ['i', 'n', 'f']
  else if x == 0.0 then sign ++ ['0', '.', '0']
  else sign ++ magnitudeText (parts x)

end TradingEngine.Shortest
