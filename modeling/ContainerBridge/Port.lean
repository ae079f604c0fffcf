import ContainerBridge.OrderedMap
import ContainerBridge.Text.Basic
import ContainerBridge.Text.Case
import ContainerBridge.Json.Decoder

/-! Ports of containers and services, and the tokens `number/protocol` that name them. -/

namespace ContainerBridge

/-- A port and its protocol. -/
structure Port where
  number : UInt16
  protocol : String
  deriving DecidableEq, Repr

namespace Port

/-- Why a text is no port token. -/
inductive TokenFault where
  | noProtocol
  | noNumber
  deriving DecidableEq, Repr

def TokenFault.message (token : String) : TokenFault → String
  | .noProtocol => s!"port '{token}' has no protocol"
  | .noNumber => s!"port '{token}' is not a valid number"

/-- Reads a token; the protocol is all that follows the first slash. -/
def parse (token : String) : Except TokenFault Port :=
  match Text.cut '/' token.toList with
  | none => .error .noProtocol
  | some (number, protocol) =>
    match Text.natural? UInt16.size number with
    | none => .error .noNumber
    | some n =>
      if protocol.isEmpty then .error .noProtocol
      else .ok ⟨UInt16.ofNat n, String.ofList protocol⟩

def token (p : Port) : String := toString p.number ++ "/" ++ p.protocol

/-- The ports that workspaces know by name. -/
def wellKnown : List (UInt16 × String) :=
  [(22, "sshd"), (4401, "wsagent"), (4403, "wsagent-jpda"), (4411, "terminal"), (8080, "tomcat"),
    (8000, "tomcat-jpda"), (9876, "codeserver")]

def wellKnownName (number : UInt16) : Option String := wellKnown.lookup number

/-- The port's known name, or its token with a dash for every slash. -/
def name (p : Port) : String :=
  (wellKnownName p.number).getD (Text.replaceChar '/' '-' p.token)

/-- The port number of a token, as it is written there. -/
def bare (token : String) : String := Text.upTo '/' token

end Port

/-- A port that a service offers; the cluster assigns the node port. -/
structure ServicePort where
  name : String
  protocol : String
  port : UInt16
  targetPort : UInt16
  nodePort : Option UInt16
  deriving DecidableEq, Repr

/-- A port that a container declares. -/
structure ContainerPort where
  name : String
  protocol : String
  containerPort : UInt16
  deriving DecidableEq, Repr

/-- Where a port of a container can be reached from outside. -/
structure PortBinding where
  hostIp : Option String
  hostPort : String
  deriving DecidableEq, Repr

namespace Port

def toService (p : Port) : ServicePort := ⟨p.name, p.protocol, p.number, p.number, none⟩

def toContainer (p : Port) : ContainerPort := ⟨p.name, Text.upper p.protocol, p.number⟩

/-- The tokens that an image declares or a request asks for. -/
def exposed (image requested : List String) : OrderedSet String := .ofMembers (image ++ requested)

/-- The ports of tokens in order, or the first token that is none. -/
def parseAll : List String → Except (String × TokenFault) (List Port)
  | [] => .ok []
  | t :: rest => match parse t with
    | .error e => .error (t, e)
    | .ok p => (parseAll rest).map (p :: ·)

end Port

namespace ServicePort
open Json

def toJson (p : ServicePort) : Value :=
  .ofMembers [("name", some (.text p.name)), ("protocol", some (.text p.protocol)),
    ("port", some (.nat p.port.toNat)), ("target_port", some (.nat p.targetPort.toNat)),
    ("node_port", p.nodePort.map fun n => .nat n.toNat)]

def decoder : Decoder ServicePort := Record.decoder <|
  ServicePort.mk <$> .required "name" .text <*> .required "protocol" .text
    <*> .required "port" .uint16 <*> .required "target_port" .uint16 <*> .maybe "node_port" .uint16

end ServicePort

namespace ContainerPort
open Json

def toJson (p : ContainerPort) : Value :=
  .ofMembers [("name", some (.text p.name)), ("protocol", some (.text p.protocol)),
    ("container_port", some (.nat p.containerPort.toNat))]

def decoder : Decoder ContainerPort := Record.decoder <|
  ContainerPort.mk <$> .required "name" .text <*> .required "protocol" .text
    <*> .required "container_port" .uint16

end ContainerPort

namespace PortBinding
open Json

def toJson (b : PortBinding) : Value :=
  .ofMembers [("HostIp", some (.orNull (b.hostIp.map .text))),
    ("HostPort", some (.text b.hostPort))]

def decoder : Decoder PortBinding := Record.decoder <|
  PortBinding.mk <$> .maybe "HostIp" .text <*> .optional "HostPort" "" .text

end PortBinding
end ContainerBridge
