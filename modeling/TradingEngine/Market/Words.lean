import TradingEngine.Failure.Basic
import TradingEngine.Market.Route
import TradingEngine.Table

/-! # Venues and routes by name

A caller names venues and route kinds by words. Whatever is no such word is spelled out in the
breakdown that it causes.
-/

namespace TradingEngine

/-- Breaks down at a name that is no word of a family. -/
def WordFamily.reject {α : Type} (family : WordFamily) (name : Name) : Except Fault α :=
  .error (.breakdown (if name.isWritable then .notMember name.spelled family else .tooManyDigits))

/-- The venue of a name that has to be one. -/
def VenueKind.ofName (name : Name) : Except Fault VenueKind :=
  match name.string?.bind VenueKind.ofName? with
  | some kind => .ok kind
  | none => WordFamily.venues.reject name

/-- The route kind of a name that has to be one. -/
def RouteKind.ofName (name : Name) : Except Fault RouteKind :=
  match name.string?.bind RouteKind.ofName? with
  | some kind => .ok kind
  | none => WordFamily.routes.reject name

/-- The route kinds that a list names. A text stands for its characters and a record for its keys,
    each of which has to be a name. -/
def RouteKind.ofNames (names : Json) : Except Fault (List RouteKind) :=
  match names with
  | .list items => items.mapM ofName
  | .text t => t.letters.mapM fun letter => ofName (.text ⟨[letter]⟩)
  | .record fields => fields.mapM fun field => ofName (.text field.1)
  | _ => .error (.breakdown .wrongType)

end TradingEngine
