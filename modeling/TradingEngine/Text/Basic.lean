/-! # Texts

A text is a row of letters. Nearly every letter is a character. The exception is a half of a
surrogate pair that stands alone: JSON can spell one, so a text may hold it and is stored, compared
and escaped with it, but no encoding of characters has a place for it.
-/

namespace TradingEngine

/-- One letter of a text. -/
inductive Letter where
  | char (c : Char)
  /-- A half of a surrogate pair that stands alone. -/
  | half (offset : Fin 0x800)
  deriving DecidableEq, Repr

namespace Letter

/-- The first number that stands for half of a surrogate pair. -/
def firstHalf : Nat := 0xD800

/-- The number of a letter. -/
def code : Letter → Nat
  | char c => c.toNat
  | half offset => firstHalf + offset

/-- The letter with this number. -/
def ofCode (n : Nat) : Letter :=
  if h : n - firstHalf < 0x800 ∧ firstHalf ≤ n then half ⟨n - firstHalf, h.1⟩
  else char (Char.ofNat n)

/-- The character that a letter is, if it is one. -/
def char? : Letter → Option Char
  | char c => some c
  | half _ => none

/-- Whether a number is the first half of a surrogate pair. -/
def isHigh (n : Nat) : Bool := 0xD800 ≤ n && n < 0xDC00

/-- Whether a number is the second half of a surrogate pair. -/
def isLow (n : Nat) : Bool := 0xDC00 ≤ n && n < 0xE000

/-- The letter of a surrogate pair. -/
def ofPair (high low : Nat) : Letter :=
  char (Char.ofNat (0x10000 + (high - 0xD800) * 0x400 + (low - 0xDC00)))

def is (c : Char) (l : Letter) : Bool := l.char? == some c

end Letter

/-- A row of letters. -/
structure Text where
  letters : List Letter
  deriving DecidableEq, Repr, Inhabited

namespace Text

def ofChars (cs : List Char) : Text := ⟨cs.map .char⟩

def ofString (s : String) : Text := ofChars s.toList

instance : Coe String Text := ⟨ofString⟩

instance : Append Text := ⟨fun a b => ⟨a.letters ++ b.letters⟩⟩

def isEmpty (t : Text) : Bool := t.letters.isEmpty

/-- The characters of a text, if it holds nothing else. -/
def chars? (t : Text) : Option (List Char) := t.letters.mapM Letter.char?

/-- The string that a text is, if it holds nothing but characters. -/
def string? (t : Text) : Option String := t.chars?.map String.ofList

/-- Whether a text holds nothing but characters. -/
def isWhole (t : Text) : Bool := t.letters.all fun l => l.char?.isSome

/-- The string of a text in which every half that stands alone is replaced, byte by byte. -/
def lossy (t : Text) : String :=
  String.ofList (t.letters.flatMap fun
    | .char c => [c]
    | .half _ => List.replicate 3 '\uFFFD')

/-- These texts with a separator between them. -/
def intercalate (separator : Text) (ts : List Text) : Text :=
  ⟨separator.letters.intercalate (ts.map (·.letters))⟩

/-- How two texts compare, letter by letter and by number. -/
def order (a b : Text) : Ordering :=
  compare (a.letters.map Letter.code) (b.letters.map Letter.code)

@[simp] theorem chars?_ofChars (cs : List Char) : (ofChars cs).chars? = some cs := by
  induction cs with
  | nil => rfl
  | cons c cs ih =>
    simp only [chars?, ofChars, List.map_cons, List.mapM_cons] at ih ⊢
    rw [ih]
    rfl

@[simp] theorem string?_ofString (s : String) : (ofString s).string? = some s := by
  simp [string?, ofString]

theorem ofString_inj {s t : String} : ofString s = ofString t ↔ s = t := by
  constructor
  · intro h
    have := congrArg string? h
    simpa using this
  · rintro rfl
    rfl

end Text

end TradingEngine
