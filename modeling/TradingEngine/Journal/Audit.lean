import TradingEngine.Digest.Hmac
import TradingEngine.Json.Printer
import TradingEngine.Json.Writable

/-! # Signed audit lines

An audit line is the canonical text of an event, a bar and the signature of that text. Canonical
text holds no line break and a signature no bar, so a trail splits into its lines and each line at
its last bar. An event that has no text leaves no line.
-/

namespace TradingEngine.Audit

/-- A way to sign a text. -/
abbrev Signer := String → String

/-- The signer that uses this key. -/
def signer (key : Text) : Except Breakdown Signer :=
  match key.string? with
  | some s => .ok (Hmac.signature s.toUTF8.toList)
  | none => .error .notEncodable

/-- An event that is handed over to be recorded, and for how many lists and objects within one
    another there is room. That is up to where it is handed over. -/
structure Notice where
  event : Json
  room : Nat
  deriving BEq, Repr

/-- The text that is recorded of an event. -/
def payload (n : Notice) : Except Breakdown String := do
  n.event.sorted.checkWritten n.room
  return n.event.canonical

/-- The line that records one event. -/
def line (sign : Signer) (n : Notice) : Except Breakdown String := do
  let text ← payload n
  return text ++ "|" ++ sign text ++ "\n"

/-- The event as it is handed on once it is recorded: with its signature as a field. Only an object
    can be given one. -/
def signed (sign : Signer) (n : Notice) : Except Breakdown Json := do
  let text ← payload n
  match n.event with
  | .record fs => return .record (Json.put "signature" (.text (sign text)) fs)
  | _ => .error .wrongType

/-- Adds the line of an event to a trail and hands the event on. Nothing is added of an event that
    has no text. -/
def record (sign : Signer) (n : Notice) (trail : String) : Except Breakdown Json × String :=
  match line sign n with
  | .ok added => (signed sign n, trail ++ added)
  | .error b => (.error b, trail)

/-- The trail that is left of these events, handed over one after the other. -/
def trail (sign : Signer) (notices : List Notice) : String :=
  notices.foldl (fun text n => (record sign n text).2) ""

end TradingEngine.Audit
