import ContainerBridge.Error
import ContainerBridge.Http.Target
import ContainerBridge.Json.Decoder
import ContainerBridge.Yaml.Document

/-! Access to clusters, as a configuration file describes it: contexts, each of which pairs a
cluster with a user. -/

namespace ContainerBridge.Cluster
open Json

structure Context where
  cluster : String
  user : String
  deriving DecidableEq, Repr

/-- Where a cluster's interface is, and the proxy on the way to it. -/
structure Endpoint where
  server : Option String
  proxy : Option String
  deriving DecidableEq, Repr

/-- What a configuration file says; entries may be named without being described. -/
structure Access where
  kind : Option String := none
  version : Option String := none
  current : Option String := none
  clusters : List (String × Option Endpoint) := []
  users : List (String × Option Unit) := []
  contexts : List (String × Option Context) := []

/-- Why there is no access. -/
inductive AccessFault where
  | missingFile
  | unreadable
  | conflict
  | noContext
  | unknownContext (name : String)
  | unknownCluster (name : String)
  | unknownUser (name : String)
  | noServer
  | badServer (text : String)
  | badProxy (text : String)
  | badEndpoint (text : String)
  deriving DecidableEq, Repr

def AccessFault.message : AccessFault → String
  | .missingFile => "failed to read the configuration file"
  | .unreadable => "failed to parse the configuration file"
  | .conflict => "the documents of the configuration differ in kind or version"
  | .noContext => "no current context is set"
  | .unknownContext name => s!"context '{name}' is not described"
  | .unknownCluster name => s!"cluster '{name}' is not described"
  | .unknownUser name => s!"user '{name}' is not described"
  | .noServer => "the cluster has no server"
  | .badServer text => s!"server '{text}' is no address"
  | .badProxy text => s!"proxy '{text}' is no address"
  | .badEndpoint text => s!"invalid API endpoint: '{text}' is no address"

def AccessFault.error (f : AccessFault) : ClusterFailure := .config f.message

namespace Access

/-- An entry of a list: a name, and what is said under `key`. -/
def entry {α : Type} (key : String) (d : Decoder α) : Decoder (String × Option α) :=
  Record.decoder <| Prod.mk <$> .required "name" .text <*> .maybe key d

def entries {α : Type} (name key : String) (d : Decoder α) : Record (List (String × Option α)) :=
  .optional name [] (.nullAs [] (.list (entry key d)))

def endpoint : Decoder Endpoint := Record.decoder <|
  (fun server _ _ _ proxy _ => ⟨server, proxy⟩) <$> .maybe "server" .text
    <*> .maybe "insecure-skip-tls-verify" .bool <*> .maybe "certificate-authority" .text
    <*> .maybe "certificate-authority-data" .text <*> .maybe "proxy-url" .text
    <*> .maybe "tls-server-name" .text

def user : Decoder Unit := Record.decoder <|
  (fun _ _ _ _ _ _ _ _ _ _ => ()) <$> .maybe "username" .text <*> .maybe "password" .text
    <*> .maybe "token" .text <*> .maybe "tokenFile" .text <*> .maybe "client-certificate" .text
    <*> .maybe "client-certificate-data" .text <*> .maybe "client-key" .text
    <*> .maybe "client-key-data" .text <*> .maybe "as" .text <*> .maybe "as-groups" (.list .text)

def context : Decoder Context := Record.decoder <|
  (fun cluster user _ => ⟨cluster, user⟩) <$> .required "cluster" .text <*> .required "user" .text
    <*> .maybe "namespace" .text

def decoder : Decoder Access := Record.decoder <|
  (fun clusters users contexts current kind version =>
      ⟨kind, version, current, clusters, users, contexts⟩)
    <$> entries "clusters" "cluster" endpoint <*> entries "users" "user" user
    <*> entries "contexts" "context" context <*> .maybe "current-context" .text
    <*> .maybe "kind" .text <*> .maybe "apiVersion" .text

/-- What both may say, unless they say different things. -/
def agree (a b : Option String) : Except AccessFault (Option String) :=
  if a.isSome && b.isSome && a ≠ b then .error .conflict else .ok (a.or b)

/-- What two documents say together; what the first one says goes before. -/
def merge (a b : Access) : Except AccessFault Access := do
  return { kind := ← agree a.kind b.kind, version := ← agree a.version b.version
           current := a.current.or b.current, clusters := a.clusters ++ b.clusters
           users := a.users ++ b.users, contexts := a.contexts ++ b.contexts }

def mergeAll (a : Access) : List Access → Except AccessFault Access
  | [] => .ok a
  | b :: rest => do mergeAll (← merge a b) rest

/-- Reads a configuration file. -/
def parse (text : String) : Except AccessFault Access :=
  match (Yaml.read text).bind fun docs => docs.mapM fun v => (decoder.ofValue v).toOption with
  | none => .error .unreadable
  | some [] => .ok {}
  | some (a :: rest) => mergeAll a rest

/-- The description of the first entry with the name. -/
def describe {α : Type} (l : List (String × Option α)) (name : String)
    (fault : String → AccessFault) : Except AccessFault α :=
  match (l.find? fun e => e.1 = name).bind (·.2) with
  | some a => .ok a
  | none => .error (fault name)

def address (text : String) (fault : String → AccessFault) : Except AccessFault Http.Address :=
  match Http.Address.ofText text with
  | some a => .ok a
  | none => .error (fault text)

/-- The address of the current context's cluster. -/
def server (a : Access) : Except AccessFault Http.Address := do
  let some current := a.current | throw .noContext
  let context ← describe a.contexts current .unknownContext
  let cluster ← describe a.clusters context.cluster .unknownCluster
  let _ ← describe a.users context.user .unknownUser
  let some server := cluster.server | throw .noServer
  let found ← address server .badServer
  match cluster.proxy with
  | none | some "" => return found
  | some proxy => do
    let _ ← address proxy .badProxy
    return found

end Access

/-- The address of the cluster that a configuration file (`none` if there is no such file) and an
endpoint that stands in for its server lead to. -/
def connect (file endpoint : Option String) : Except AccessFault Http.Address := do
  let some text := file | throw .missingFile
  let server ← (← Access.parse text).server
  match endpoint with
  | none => return server
  | some text => Access.address text .badEndpoint

end ContainerBridge.Cluster
