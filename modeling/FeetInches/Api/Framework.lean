import FeetInches.Api.Handler

namespace FeetInches.Api

inductive Endpoint where
  | state
  | calculate
  | reset
  deriving DecidableEq, Repr

/-- The web framework around the handlers, as far as they meet it. A request is routed to a handler,
or it is answered without one and the calculator has no part in it. `body?` is the JSON value that
the body of a request shows, and `getJson` what a handler is given that asks for it. -/
structure Framework (Request : Type) where
  route : Request → Except Response Endpoint
  body? : Request → Option Json
  getJson : Request → Except Fault (Option Json)
  deliver : Request → Except Fault Response → Response

namespace Framework

variable {Request : Type} (F : Framework Request)

def call (c : Calculator) (request : Request) : Endpoint → Step Response
  | .state => (c, snapshot c true)
  | .calculate =>
    match F.getJson request with
    | .ok data => calculate c data
    | .error fault => (c, .error fault)
  | .reset => reset c

def respond (c : Calculator) (request : Request) : Calculator × Response :=
  match F.route request with
  | .ok endpoint =>
    let (next, outcome) := F.call c request endpoint
    (next, F.deliver request outcome)
  | .error response => (c, response)

/-- What the handlers rely on. A body that cannot be parsed counts as no data, what a handler
returns is sent with its status, and a fault that it lets through is answered with status 500. -/
structure Documented : Prop where
  silent : ∀ request, F.getJson request = .ok (F.body? request)
  returned : ∀ request response, (F.deliver request (.ok response)).status = response.status
  uncaught : ∀ request fault, (F.deliver request (.error fault)).status = 500

end Framework

end FeetInches.Api
