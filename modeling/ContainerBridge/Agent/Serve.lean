import ContainerBridge.Agent.Route
import ContainerBridge.Connector
import ContainerBridge.Health
import ContainerBridge.Http.MediaType
import ContainerBridge.World

/-! The agent's answers to requests. -/

namespace ContainerBridge.Agent

open Json

structure Request where
  method : String
  target : String
  contentType : Option String
  body : String
  deriving DecidableEq, Repr

/-- An answer; the body of one that is no JSON does not matter. -/
structure Response where
  status : Nat
  contentType : Option String
  body : Value

structure State where
  world : World
  connector : Connector
  health : Health.Registry := {}
  /-- Cancels the waits of all requests. -/
  shutdown : Bool := false

namespace Response

def empty (status : Nat) : Response := ⟨status, none, .null⟩

def json (status : Nat) (v : Value) : Response := ⟨status, some "application/json", v⟩

/-- A refusal, or another answer for people to read. -/
def plain (status : Nat) : Response := ⟨status, some "text/plain; charset=utf-8", .null⟩

def ofError (e : BridgeError) : Response :=
  json e.httpStatus <|
    .ofMembers [("message", some (.text e.message)), ("kind", some (.text e.kind))]

end Response

/-- The body of a request, or the refusal of one that cannot be read. -/
def body {α : Type} (d : Decoder α) (r : Request) : Except Response α :=
  if (r.contentType.bind Http.MediaType.parse).any Http.MediaType.isJson then
    match d.ofLeading r.body with
    | .ok a => .ok a
    | .error .malformed => .error (.plain 400)
    | .error .mismatch => .error (.plain 422)
  else .error (.plain 415)

/-- The servers that a request adds. -/
def serversDecoder : Decoder (List ServerConf) := Record.decoder <|
  Record.optional "servers" [] (.list ServerConf.decoder)

/-- Whether a query's flag is set. -/
def isSet (flag : Option String) : Bool :=
  flag = some "1" || flag = some "true" || flag = some "True"

/-- The name in the query goes before the one in the body. -/
def rename (query : Option String) (spec : ContainerSpec) : ContainerSpec :=
  match query.filter (· ≠ "") with
  | some name => { spec with name := name }
  | none => spec

namespace State

/-- Runs an operation and answers with its outcome. -/
def perform {α : Type} (x : Operation α) (answer : α → Response) (s : State) : Response × State :=
  let (r, w) := s.world.runWith s.shutdown none x
  (match r with
    | .ok a => answer a
    | .error e => .ofError e, { s with world := w })

def create (r : Request) (query : Option String) (s : State) : Response × State :=
  match parameter query "name" with
  | none => (.plain 400, s)
  | some name => match body ContainerSpec.decoder r with
    | .error refusal => (refusal, s)
    | .ok spec =>
      s.perform (s.connector.create (rename name spec)) fun c => .json 201 c.toJson

def remove (id : String) (query : Option String) (s : State) : Response × State :=
  match parameter query "force", parameter query "v" with
  | some force, some volumes =>
    s.perform (s.connector.remove id (isSet force) (isSet volumes)) fun _ => .empty 204
  | _, _ => (.plain 400, s)

/-- Goes on with an identifier, unless it is no text. -/
def withId (id : String) (s : State) (f : String → Response × State) : Response × State :=
  match decodeId id with
  | some id => f id
  | none => (.plain 400, s)

def serve (e : Endpoint) (r : Request) (query : Option String) (s : State) : Response × State :=
  match e with
  | .health =>
    let report := s.health.report
    (.json (if report.status = .unhealthy then 503 else 200) report.toJson, s)
  | .readiness =>
    let readiness := s.health.readiness
    (.json (if readiness.ready then 200 else 503) readiness.toJson, s)
  | .metrics => (.plain 200, s)
  | .create => s.create r query
  | .inspectContainer id => s.withId id fun id =>
    s.perform (s.connector.inspectContainer id) fun i => .json 200 i.toJson
  | .inspect id => s.withId id fun id =>
    s.perform (s.connector.inspect id []) fun i => .json 200 i.toJson
  | .inspectWith id => s.withId id fun id =>
    match body serversDecoder r with
    | .error refusal => (refusal, s)
    | .ok servers => s.perform (s.connector.inspect id servers) fun i => .json 200 i.toJson
  | .remove id => s.withId id fun id => s.remove id query
  | .files command workspace => s.withId workspace fun workspace =>
    s.perform (s.connector.files command workspace) fun _ => .empty 204

/-- The answer to a request, and the agent after it. -/
def handle (r : Request) (s : State) : Response × State :=
  let (path, query) := splitTarget r.target
  match Route.ofPath? path with
  | none => (.empty 404, s)
  | some route => match route.endpoint? r.method with
    | none => (.empty 405, s)
    | some e =>
      let (response, s) := s.serve e r query
      (if r.method = "HEAD" then { response with body := .null } else response, s)

end State
end ContainerBridge.Agent
