/-! # Text beyond ASCII, spelled in ASCII

A text is spelled as its characters of ASCII and, behind a hyphen, the places at which the others
are put in. These are put in by number, and for one number from the left. A place is told by how far
it is from the last one, as a numeral of digits `a` to `z` and `0` to `9` with its least digit
first. A digit below its threshold ends a numeral, and thresholds follow the distances told before.
-/

namespace TradingEngine.Punycode

/-- The character of a digit below thirty-six. -/
def digitChar (d : Nat) : Char :=
  Char.ofNat (if d < 26 then 'a'.toNat + d else '0'.toNat + (d - 26))

/-- The threshold at a position of a numeral. -/
def threshold (position bias : Nat) : Nat := max 1 (min 26 (position - bias))

theorem threshold_pos (position bias : Nat) : 1 ≤ threshold position bias := by
  unfold threshold
  omega

/-- The numeral of a distance, from a position on. -/
def numeral (bias position distance : Nat) : List Char :=
  let t := threshold position bias
  if distance < t then [digitChar distance]
  else
    digitChar (t + (distance - t) % (36 - t)) ::
      numeral bias (position + 36) ((distance - t) / (36 - t))
termination_by distance
decreasing_by
  have positive := threshold_pos position bias
  have small := Nat.div_le_self (distance - threshold position bias)
    (36 - threshold position bias)
  omega

/-- The bias that a distance leaves once it has been scaled. -/
def scaledBias (position distance : Nat) : Nat :=
  if distance ≤ 455 then position + 36 * distance / (distance + 38)
  else scaledBias (position + 36) (distance / 35)
termination_by distance
decreasing_by omega

/-- What is known after some of the characters have been put in. -/
structure Progress where
  /-- The numerals told so far. -/
  told : List Char := []
  /-- How far it is from the last place to the present one. -/
  distance : Nat := 0
  bias : Nat := 72
  /-- How many characters the text has so far. -/
  size : Nat

/-- Passes a character on the way through a text, in the round of those with this number. -/
def Progress.pass (basic number : Nat) (p : Progress) (c : Char) : Progress :=
  if c.toNat < number then { p with distance := p.distance + 1 }
  else if c.toNat = number then
    let fresh := if p.size = basic then p.distance / 700 else p.distance / 2
    { told := p.told ++ numeral p.bias 36 p.distance, distance := 0
      bias := scaledBias 0 (fresh + fresh / (p.size + 1)), size := p.size + 1 }
  else p

/-- Goes through a text once for each of these numbers. -/
def Progress.rounds (cs : List Char) (basic : Nat) : List Nat → Nat → Progress → Progress
  | [], _, p => p
  | number :: rest, next, p =>
    let begun := { p with distance := p.distance + (number - next) * (p.size + 1) }
    let passed := cs.foldl (pass basic number) begun
    rounds cs basic rest (number + 1) { passed with distance := passed.distance + 1 }

/-- Whether a character is one of ASCII. -/
def isBasic (c : Char) : Bool := c.toNat < 128

/-- The numbers of the characters beyond ASCII in a text, in order and without repetition. -/
def numbers (cs : List Char) : List Nat :=
  (((cs.filter (!isBasic ·)).map Char.toNat).mergeSort (· ≤ ·)).eraseDups

def encode (cs : List Char) : List Char :=
  let basic := cs.filter isBasic
  let done := Progress.rounds cs basic.length (numbers cs) 128 { size := basic.length }
  basic ++ (if basic.isEmpty then [] else ['-']) ++ done.told

end TradingEngine.Punycode
