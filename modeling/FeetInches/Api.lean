import FeetInches.Outer.Request

namespace FeetInches.Api

/-- Answers a request. A body that nests too deep for the reader breaks its handler off. -/
def respond (c : Calculator) (request : Request) : Calculator × Response :=
  match request.route, request.read with
  | .ok .calculate, .error .tooDeep => (c, { status := 500 })
  | _, _ => framework.respond c request

end FeetInches.Api
