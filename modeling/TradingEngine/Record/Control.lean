import TradingEngine.Control.Request
import TradingEngine.Control.Target
import TradingEngine.Record.Decoder

/-! # Records of requests and responses

How a host hands a request to the control surface and takes the response: the request with its
method, its target, its headers and the text of its body, the response with its status and its body.
-/

namespace TradingEngine

/-- Reads a text that holds nothing but characters. -/
def Decoder.string : Decoder String := fun j =>
  (Decoder.text j).andThen fun t => match t.string? with
    | some s => .value s
    | none => .problem .stringRagged

def ControlRequest.decode : Decoder ControlRequest :=
  Decoder.object .caller fun fs =>
    (fun method target headers body =>
      let (path, query) := Target.parse target.toList
      { method, path, query, body
        headers := headers.map fun (name, value) => (name.lossy, value) })
      <$> Decoder.required fs "method" Decoder.string
      <*> Decoder.required fs "target" Decoder.string
      <*> Decoder.defaulted fs "headers" (Decoder.table Decoder.string) []
      <*> Decoder.defaulted fs "body" Decoder.string ""

/-- The body of a response. -/
def ResponseContent.toJson : ResponseContent → Json
  | .value v => v
  | .problems ps =>
    .record [("detail", .list (ps.map fun p =>
      .record [("loc", .list (p.place.map PlaceStep.toJson)), ("type", .text p.kind.code)]))]

def ControlResponse.toJson (r : ControlResponse) : Json :=
  .record (Json.putAll [("status", .int r.status), ("body", r.content.toJson)]
    (match r.location with
      | some location => [("location", .string location)]
      | none => []))

end TradingEngine
