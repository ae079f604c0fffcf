import ContainerBridge.Engine.Request
import ContainerBridge.Error
import ContainerBridge.Http.Exchange
import ContainerBridge.Url.Basic

/-! Calls to a container engine over HTTP. -/

namespace ContainerBridge.Engine
open Json

/-- An engine whose interface lies below a URL. -/
structure Client where
  base : Url

namespace Client

/-- A call as requests to the engine. -/
abbrev Call := ExceptT EngineFailure Http.Exchange

variable {α : Type}

/-- The engine at a URL, which counts as a directory. -/
def ofUrl (text : String) : Except EngineFailure Client :=
  match Url.parse text with
  | .ok url => .ok ⟨url.asDirectory⟩
  | .error fault => .error (.url fault)

/-- The URL of a path below the engine's. -/
def locate (c : Client) (path : String) : Except EngineFailure Url :=
  (c.base.join path).mapError .url

/-- Sends a request; a response that is not read is none. -/
def send (r : Http.Request) : Call Http.Response := do
  match ← ExceptT.lift (Http.send r) with
  | none => throw .transport
  | some response => return response

/-- The response to a request that was granted. -/
def check (r : Http.Response) : Call Http.Response :=
  if r.status.isSuccess then pure r else throw (.api r.status.code r.text)

def decode (d : Decoder α) (r : Http.Response) : Call α :=
  match d.ofText r.text with
  | .ok a => pure a
  | .error _ => throw .transport

/-- What the response to a request holds; nothing when the engine does not know it. -/
def decodeKnown (d : Decoder α) (r : Http.Response) : Call (Option α) := do
  if r.status.code = 404 then return none
  else return some (← decode d (← check r))

def get (c : Client) (path : String) : Call Http.Response := do
  send { method := "GET", target := (← c.locate path).target }

/-- The body by which a container is created; labels without a value are left out. -/
def creation (spec : ContainerSpec) : Value :=
  .ofMembers [("Image", some (.text spec.image)), ("Env", some (.texts spec.env)),
    ("ExposedPorts", some (.ofMap (OrderedMap.mapValues spec.exposedPorts fun _ _ => .object []))),
    ("Labels", some (.textMap (spec.labels.filterMap fun _ v => v))),
    ("HostConfig", some (.ofMembers [("Binds", some (.texts spec.binds))]))]

/-- The URL by which a container is created; it carries the name, if there is one. -/
def creationUrl (c : Client) (name : String) : Except EngineFailure Url := do
  let url ← c.locate "containers/create"
  return if name.isEmpty then url else url.withPairs [("name", name)]

/-- The URL by which a container is removed. -/
def removalUrl (c : Client) (id : String) (force volumes : Bool) : Except EngineFailure Url := do
  let digit (b : Bool) := if b then "1" else "0"
  return (← c.locate ("containers/" ++ id)).withPairs [("force", digit force), ("v", digit volumes)]

/-- Puts a call to the engine. -/
def perform (c : Client) : (q : Request) → Call q.Answer
  | .inspectImage image => do
    decodeKnown ImageInfo.decoder (← c.get ("images/" ++ image ++ "/json"))
  | .inspectContainer id => do
    decodeKnown ContainerInfo.decoder (← c.get ("containers/" ++ id ++ "/json"))
  | .createContainer spec => do
    let target := (← c.creationUrl spec.name).target
    decode ContainerCreated.decoder (← check (← send (.withJson "POST" target (creation spec))))
  | .removeContainer id force volumes => do
    let target := (← c.removalUrl id force volumes).target
    let r ← send { method := "DELETE", target := target }
    if r.status.code = 404 then return false
    else do
      let _ ← check r
      return true
  | .ping => do
    let _ ← check (← c.get "_ping")

end Client
end ContainerBridge.Engine
