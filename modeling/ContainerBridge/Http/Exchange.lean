import ContainerBridge.Http.Status
import ContainerBridge.Http.Target
import ContainerBridge.Json.Printer
import ContainerBridge.Program
import ContainerBridge.Text.Basic

/-! Requests to a server and its responses, as the clients see them and as they are written. -/

namespace ContainerBridge.Http

/-- A request; its target is a path with an optional query. -/
structure Request where
  method : String
  target : String
  contentType : Option String := none
  body : Option Json.Value := none

/-- A response with its body as text. -/
structure Response where
  status : Status
  text : String
  deriving DecidableEq, Repr

/-- Programs that send requests; `none` stands for a server that does not answer. -/
abbrev Exchange := Program fun _ : Request => Option Response

def send (r : Request) : Exchange (Option Response) := Program.request r

/-- The exchange with a server whose targets are below an address. -/
def below {α : Type} (address : Address) (x : Exchange α) : Exchange α :=
  x.expand fun r => send { r with target := address.below r.target }

/-- The media type of JSON bodies. -/
def jsonType : String := "application/json"

/-- A request with a JSON body. -/
def Request.withJson (method target : String) (body : Json.Value) : Request :=
  { method := method, target := target, contentType := some jsonType, body := some body }

/-- A server that gives prepared responses in turn, and the requests it has seen. -/
structure Script where
  responses : List Response
  seen : List Request := []

namespace Script

def answer (r : Request) (s : Script) : Option Response × Script :=
  (s.responses.head?, ⟨s.responses.tail, s.seen ++ [r]⟩)

/-- Runs an exchange with the server. -/
def run {α : Type} (x : Exchange α) (s : Script) : α × Script := Program.run answer x s

end Script

/-- Runs an exchange with a server that never answers. -/
def runUnreachable {α : Type} (x : Exchange α) : α := (Program.run (fun _ s => (none, s)) x ()).1

/-! Requests and responses as they stand on a connection, which ends behind the response -/

def lineEnd : String := "\r\n"

/-- The lines of a request to a server, and its body behind an empty line. -/
def Request.written (r : Request) (server : String) : String :=
  let body := (r.body.map Json.print).getD ""
  let type := (r.contentType.map ("Content-Type: " ++ ·)).toList
  Text.joinWith lineEnd ([r.method ++ " " ++ r.target ++ " HTTP/1.0", "Host: " ++ server]
    ++ type ++ [s!"Content-Length: {body.utf8ByteSize}", "", body])

/-- Reads the code in the first line of a response. -/
def Status.ofLine? (line : String) : Option Status :=
  match Text.splitAll ' ' line with
  | version :: code :: _ =>
    if Text.startsWith "HTTP/1." version && code.length = 3 && code.toList.all Char.isDigit then
      code.toNat?.map fun n => ⟨UInt16.ofNat n⟩
    else none
  | _ => none

/-- Reads a response: a line with its code, more lines, and its body behind an empty line. -/
def Response.ofWritten? (s : String) : Option Response := do
  let (head, body) ← Text.cutAt (lineEnd ++ lineEnd).toList s.toList
  let status ← Status.ofLine? (Text.upTo '\r' (String.ofList head))
  return ⟨status, String.ofList body⟩

end ContainerBridge.Http
