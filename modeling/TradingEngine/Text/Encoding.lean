import TradingEngine.Text.Basic

/-! # Encodings of text

Text in UTF-8, UTF-16 and UTF-32. Reading UTF-8 never fails: the longest beginning of a character
that bytes cannot go on with is replaced as a whole. UTF-16 and UTF-32 can spell a half of a
surrogate pair that stands alone, which is kept. Which encoding a JSON text is in shows in the zeros
among its first four bytes, since a JSON text begins with ASCII characters.
-/

namespace TradingEngine.Encoding

/-- The character that stands for bytes that spell none. -/
def replacement : Char := '\uFFFD'

/-! ### UTF-8 -/

/-- A character of which the first bytes have been read: their value, how many bytes are to follow,
    and between which bounds the next one has to be. -/
structure Begun where
  value : Nat
  missing : Nat
  least : Nat := 0x80
  most : Nat := 0xBF

/-- Reads a byte at which a character begins. -/
def start (b : Nat) : List Char × Option Begun :=
  if b < 0x80 then ([Char.ofNat b], none)
  else if b < 0xC2 then ([replacement], none)
  else if b < 0xE0 then ([], some { value := b - 0xC0, missing := 1 })
  else if b = 0xE0 then ([], some { value := 0, missing := 2, least := 0xA0 })
  else if b = 0xED then ([], some { value := 0xD, missing := 2, most := 0x9F })
  else if b < 0xF0 then ([], some { value := b - 0xE0, missing := 2 })
  else if b = 0xF0 then ([], some { value := 0, missing := 3, least := 0x90 })
  else if b < 0xF4 then ([], some { value := b - 0xF0, missing := 3 })
  else if b = 0xF4 then ([], some { value := 4, missing := 3, most := 0x8F })
  else ([replacement], none)

/-- Reads a byte: the characters that are now known, and the one that has begun. -/
def next (begun : Option Begun) (b : Nat) : List Char × Option Begun :=
  match begun with
  | none => start b
  | some c =>
    if c.least ≤ b && b ≤ c.most then
      let value := c.value * 64 + (b - 0x80)
      if c.missing = 1 then ([Char.ofNat value], none)
      else ([], some { value, missing := c.missing - 1 })
    else
      let (known, begun) := start b
      (replacement :: known, begun)

/-- The characters that bytes spell in UTF-8, where one may have begun. -/
def utf8From (begun : Option Begun) : List UInt8 → List Char
  | [] => if begun.isSome then [replacement] else []
  | b :: rest =>
    let (known, begun) := next begun b.toNat
    known ++ utf8From begun rest

def utf8 (bs : List UInt8) : List Char := utf8From none bs

/-! ### UTF-16 and UTF-32 -/

/-- Which byte of a unit comes first. -/
inductive ByteOrder where
  | big
  | little
  deriving DecidableEq, Repr

/-- The number that the bytes of a unit spell. -/
def ByteOrder.number (order : ByteOrder) (bs : List UInt8) : Nat :=
  let ordered := match order with
    | .big => bs
    | .little => bs.reverse
  ordered.foldl (fun n b => n * 256 + b.toNat) 0

/-- The units of 16 bits, if the bytes make whole ones. -/
def units16? (order : ByteOrder) : List UInt8 → Option (List Nat)
  | [] => some []
  | a :: b :: rest => (units16? order rest).map (order.number [a, b] :: ·)
  | _ => none

/-- The units of 32 bits, if the bytes make whole ones. -/
def units32? (order : ByteOrder) : List UInt8 → Option (List Nat)
  | [] => some []
  | a :: b :: c :: d :: rest => (units32? order rest).map (order.number [a, b, c, d] :: ·)
  | _ => none

/-- The letters that units of 16 bits spell. -/
def ofUnits16 : List Nat → List Letter
  | [] => []
  | [n] => [.ofCode n]
  | n :: m :: rest =>
    if Letter.isHigh n && Letter.isLow m then .ofPair n m :: ofUnits16 rest
    else .ofCode n :: ofUnits16 (m :: rest)

/-- The letters that units of 32 bits spell, if none of them is too large. -/
def ofUnits32? (units : List Nat) : Option (List Letter) :=
  if units.all (· < 0x110000) then some (units.map .ofCode) else none

/-! ### JSON texts -/

/-- The encoding of a JSON text. -/
inductive Form where
  | utf8
  | utf16 (order : ByteOrder)
  | utf32 (order : ByteOrder)
  deriving DecidableEq, Repr

/-- The encoding that the first bytes of a JSON text show. -/
def form : List UInt8 → Form
  | a :: b :: c :: d :: _ =>
    if a = 0 then (if b = 0 then .utf32 .big else .utf16 .big)
    else if b = 0 then (if c = 0 && d = 0 then .utf32 .little else .utf16 .little)
    else .utf8
  | [a, b] => if a = 0 then .utf16 .big else if b = 0 then .utf16 .little else .utf8
  | _ => .utf8

/-- The JSON text that was sent as these bytes, without a mark that may open it. -/
def json? (bs : List UInt8) : Option Text :=
  match form bs with
  | .utf8 =>
    match utf8 bs with
    | '\uFEFF' :: rest => some (.ofChars rest)
    | cs => some (.ofChars cs)
  | .utf16 order => (units16? order bs).map fun units => ⟨ofUnits16 units⟩
  | .utf32 order => (units32? order bs).bind fun units => (ofUnits32? units).map Text.mk

end TradingEngine.Encoding
