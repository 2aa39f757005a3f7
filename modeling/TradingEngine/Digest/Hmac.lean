import TradingEngine.Digest.Sha256
import TradingEngine.Text.Numeral

/-! # HMAC-SHA256

The keyed digest that signs an audit line, and its text of 64 hexadecimal digits.
-/

namespace TradingEngine.Hmac

/-- The key as one block: a key longer than a block is digested first, a shorter one is filled with
    zeros. -/
def keyBlock (key : List UInt8) : List UInt8 :=
  let short := if key.length > 64 then Sha256.digest key else key
  short ++ List.replicate (64 - short.length) 0

def digest (key message : List UInt8) : List UInt8 :=
  let block := keyBlock key
  let inner := Sha256.digest (block.map (· ^^^ 0x36) ++ message)
  Sha256.digest (block.map (· ^^^ 0x5c) ++ inner)

def hexByte (b : UInt8) : List Char :=
  [Numeral.hexDigit (b.toNat / 16), Numeral.hexDigit (b.toNat % 16)]

/-- The keyed digest of a text, as hexadecimal digits. -/
def signature (key : List UInt8) (message : String) : String :=
  String.ofList ((digest key message.toUTF8.toList).flatMap hexByte)

theorem length_signature (key : List UInt8) (message : String) :
    (signature key message).length = 64 := by
  have h : ∀ bytes : List UInt8, (bytes.flatMap hexByte).length = 2 * bytes.length := by
    intro bytes
    induction bytes with
    | nil => rfl
    | cons b rest ih => simp [List.flatMap_cons, hexByte, ih]; omega
  simp [signature, h, digest, Sha256.length_digest]

end TradingEngine.Hmac
