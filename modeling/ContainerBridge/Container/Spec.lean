import ContainerBridge.Json.Decoder

/-! Requests for containers, and the answer to one. -/

namespace ContainerBridge

/-- A request for a container. -/
structure ContainerSpec where
  name : String
  image : String
  /-- Entries `NAME=VALUE`. -/
  env : List String
  /-- Tokens `number/protocol`. -/
  exposedPorts : OrderedSet String
  /-- Entries `hostPath:mountPath[:mode]`. -/
  binds : List String
  labels : OrderedMap String (Option String)
  deriving DecidableEq

/-- The container that a request led to. -/
structure ContainerCreated where
  id : String
  warnings : List String
  deriving DecidableEq, Repr

open Json

namespace ContainerSpec

def toJson (s : ContainerSpec) : Value :=
  .ofMembers [("name", some (.text s.name)), ("image", some (.text s.image)),
    ("env", some (.texts s.env)), ("exposed_ports", some (.texts s.exposedPorts.members)),
    ("binds", some (.texts s.binds)),
    ("labels", some (.ofMap (s.labels.mapValues fun _ v => .orNull (v.map .text))))]

def decoder : Decoder ContainerSpec := Record.decoder <|
  ContainerSpec.mk <$> .required "name" .text <*> .required "image" .text
    <*> .optional "env" [] (.list .text) <*> .optional "exposed_ports" .empty (.members .text)
    <*> .optional "binds" [] (.list .text) <*> .optional "labels" .empty (.object (.nullable .text))

end ContainerSpec

namespace ContainerCreated

def toJson (c : ContainerCreated) : Value :=
  .ofMembers [("Id", some (.text c.id)), ("Warnings", some (.texts c.warnings))]

def decoder : Decoder ContainerCreated := Record.decoder <|
  ContainerCreated.mk <$> .required "Id" .text <*> .optional "Warnings" [] (.list .text)

end ContainerCreated
end ContainerBridge
