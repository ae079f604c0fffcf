import ContainerBridge.Container.Info
import ContainerBridge.Container.Spec
import ContainerBridge.Http.Exchange
import ContainerBridge.Server.Conf
import ContainerBridge.Server.Record
import ContainerBridge.Url.Basic

/-! Calls to an agent over HTTP. -/

namespace ContainerBridge.Agent
open Json

/-- Why a call to an agent failed. -/
inductive ClientFault where
  | badUrl
  | badPath
  | noAnswer
  /-- The agent granted the request with a body that cannot be read. -/
  | badAnswer
  /-- The agent refused the request, with an error that it names or with any text. -/
  | refused (status : Http.Status) (kind message : String)
  | failed (status : Http.Status) (text : String)
  deriving DecidableEq, Repr

def ClientFault.message : ClientFault → String
  | .badUrl => "Invalid API URL"
  | .badPath => "Invalid path"
  | .noAnswer => "Failed to send request"
  | .badAnswer => "Failed to parse response"
  | .refused status kind message => s!"API error ({status.text}, {kind}): {message}"
  | .failed status text => s!"API error ({status.text}): {text}"

/-- An agent that is addressed by a URL. -/
structure Client where
  base : Url

namespace Client

/-- A call as requests to the agent. -/
abbrev Call := ExceptT ClientFault Http.Exchange

variable {α : Type}

def ofUrl (text : String) : Except ClientFault Client :=
  match Url.parse text with
  | .ok url => .ok ⟨url⟩
  | .error _ => .error .badUrl

/-- The URL that a path leads to from the agent's. -/
def locate (c : Client) (path : String) : Except ClientFault Url :=
  match c.base.join path with
  | .ok url => .ok url
  | .error _ => .error .badPath

/-- The failure that a response reports; its text may name an error. -/
def failure (r : Http.Response) : ClientFault :=
  let named : Record ClientFault := (fun message kind => .refused r.status kind message) <$>
    .required "message" .text <*> .required "kind" .text
  match named.decoder.ofText r.text with
  | .ok fault => fault
  | .error _ => .failed r.status r.text

/-- Sends a request and takes the text of a response that grants it. -/
def send (r : Http.Request) : Call String := do
  match ← ExceptT.lift (Http.send r) with
  | none => throw .noAnswer
  | some response =>
    if response.status.isSuccess then return response.text else throw (failure response)

def decode (d : Decoder α) (text : String) : Call α :=
  match d.ofText text with
  | .ok a => pure a
  | .error _ => throw .badAnswer

def get (c : Client) (path : String) (d : Decoder α) : Call α := do
  decode d (← send { method := "GET", target := (← c.locate path).target })

def post (c : Client) (path : String) (body : Value) (d : Decoder α) : Call α := do
  decode d (← send (.withJson "POST" (← c.locate path).target body))

/-- Deletes what a path leads to. -/
def delete (c : Client) (path : String) (query : List (String × String)) : Call Unit := do
  let url ← c.locate path
  let url := if query.isEmpty then url else url.withPairs query
  let _ ← send { method := "DELETE", target := url.target }

/-! The calls. -/

def create (c : Client) (spec : ContainerSpec) : Call ContainerCreated :=
  c.post "containers/create" spec.toJson ContainerCreated.decoder

def inspect (c : Client) (id : String) : Call ContainerInfo :=
  c.get ("containers/" ++ id ++ "/json") ContainerInfo.decoder

/-- The servers of a container; those that are given count more than those the agent knows. -/
def runtime (c : Client) (id : String) (servers : List ServerConf) : Call RuntimeInfo :=
  let path := "containers/" ++ id ++ "/runtime"
  if servers.isEmpty then c.get path RuntimeInfo.decoder
  else
    let body := Value.object [("servers", .array (servers.map ServerConf.toJson))]
    c.post path body RuntimeInfo.decoder

def remove (c : Client) (id : String) (force volumes : Bool) : Call Unit :=
  let digit (b : Bool) := if b then "1" else "0"
  c.delete ("containers/" ++ id) [("force", digit force), ("v", digit volumes)]

/-- Makes the directory of a workspace. -/
def makeFiles (c : Client) (workspace : String) : Call Unit := do
  let url ← c.locate ("workspaces/" ++ workspace ++ "/files")
  let _ ← send { method := "POST", target := url.target }

/-- Deletes the directory of a workspace. -/
def clearFiles (c : Client) (workspace : String) : Call Unit :=
  c.delete ("workspaces/" ++ workspace ++ "/files") []

end Client
end ContainerBridge.Agent
