import FeetInches.Api.Framework
import FeetInches.Json.Reader
import FeetInches.Outer.Target
import FeetInches.Text.Encoding
import FeetInches.Text.LetterCase
/-!
Requests as a client sends them, and a framework that routes them. It stands in for a real one when
the interface is run; nothing is proved about it.
-/

namespace FeetInches.Api

inductive Method where
  | get
  | head
  | options
  | post
  deriving DecidableEq, Repr

def Method.name : Method → String
  | .get => "GET"
  | .head => "HEAD"
  | .options => "OPTIONS"
  | .post => "POST"

/-- `file` stands for the files beside the interface, of which there are none. -/
inductive Resource where
  | handler (endpoint : Endpoint)
  | file
  deriving DecidableEq, Repr

namespace Resource

def methods : Resource → List Method
  | handler .state | file => [.get, .head, .options]
  | handler .calculate | handler .reset => [.post, .options]

def paths : List (String × Endpoint) :=
  [("/api/state", .state), ("/api/calculate", .calculate), ("/api/reset", .reset)]

def isFileName : List Char → Bool
  | first :: rest => first ≠ '/' && !rest.contains '\n'
  | [] => false

def fileDirectory : List Char := "/static/".toList

def isFilePath (path : List Char) : Bool :=
  fileDirectory.isPrefixOf path && isFileName (path.drop fileDirectory.length)

def ofPath? (path : List Char) : Option Resource :=
  match paths.find? (·.1.toList = path) with
  | some (_, endpoint) => some (handler endpoint)
  | none => if isFilePath path then some file else none

end Resource

def mergeSlashes : List Char → List Char
  | '/' :: '/' :: rest => mergeSlashes ('/' :: rest)
  | c :: rest => c :: mergeSlashes rest
  | [] => []

structure Request where
  method : Text
  destination : Destination
  contentType : Option Text := none
  body : List UInt8 := []

/-- Lists and objects in a body may nest this deep before the reader runs out of stack. -/
def maxNesting : Nat := 970

def isJsonType (type : List Char) : Bool :=
  type = "application/json".toList ||
    ("application/".toList.isPrefixOf type && "+json".toList.isSuffixOf type)

def isJson (contentType : Text) : Bool :=
  let type := contentType.chars.takeWhile (· ≠ ';')
  isJsonType ((Text.trim (fun c => c = ' ' || c = '\t') type).map Char.toLower)

namespace Request

def make? (method target : Text) (contentType : Option Text) (body : Text) :
    Except RequestFault Request := do
  Authority.checkEncodable body
  let destination ← Destination.ofText target
  if contentType.any fun t => t.contains (.char '\n') || t.contains (.char '\r') then
    .error .headerLineEnd
  else return ⟨method, destination, contentType, (String.ofList body.chars).toUTF8.toList⟩

/-- A body that is not declared as JSON counts as absent. -/
def read (request : Request) : Except Json.ReadFault Json := do
  if !request.contentType.any isJson then .error .malformed else
  let (encoding, bytes) := Encoding.detect request.body
  match encoding.decode bytes with
  | some text => Json.read maxNesting text
  | none => .error .malformed

def hasNamedHost (request : Request) : Bool :=
  let name := request.destination.host.takeWhile (· ≠ ':')
  match HostName.encode (Text.ofChars name) with
  | .ok _ => true
  | .error _ => false

def methodFor? (request : Request) (resource : Resource) : Option Method :=
  resource.methods.find? (·.name.toList = Text.capitalised request.method.chars)

/-- Routes a request to a known host. The method is looked at first, then that no socket is asked
for, because no resource is one, and then whether only the slashes of the path keep it from a
resource. -/
def routeTo (request : Request) (resource : Resource) (redirects : Bool) :
    Except Response Endpoint :=
  let status (n : Nat) : Except Response Endpoint := .error { status := n }
  match request.methodFor? resource, resource with
  | none, _ => status 405
  | some method, resource =>
    if request.destination.isSocket then status 400
    else if redirects then status 308
    else match method, resource with
      | .options, _ => status 200
      | _, .file => status 404
      | _, .handler endpoint => .ok endpoint

def route (request : Request) : Except Response Endpoint :=
  let path := request.destination.path
  if !request.hasNamedHost then .error { status := 400 }
  else match Resource.ofPath? path, Resource.ofPath? (mergeSlashes path) with
    | some resource, _ => request.routeTo resource false
    | none, some resource => request.routeTo resource true
    | none, none => .error { status := 404 }

/-- The answer to `HEAD`, in capitals, has no body. -/
def deliver (request : Request) : Except Fault Response → Response
  | .ok response => if request.method = "HEAD" then { response with body := none } else response
  | .error _ => { status := 500 }

end Request

def framework : Framework Request where
  route := Request.route
  body? request := request.read.toOption
  getJson request := .ok request.read.toOption
  deliver := Request.deliver

end FeetInches.Api
