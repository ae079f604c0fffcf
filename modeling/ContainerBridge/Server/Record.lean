import ContainerBridge.Json.Decoder

/-! Servers as they can be reached. -/

namespace ContainerBridge

/-- How a server is reached from inside. -/
structure ServerProperties where
  path : Option String
  internalAddress : String
  internalUrl : Option String
  deriving DecidableEq, Repr

/-- How a server is reached. -/
structure ServerRecord where
  ref : String
  protocol : Option String
  address : String
  url : Option String
  properties : ServerProperties
  deriving DecidableEq, Repr

/-- What an inspection reports of a container. -/
structure RuntimeInfo where
  properties : OrderedMap String String
  env : OrderedMap String String
  servers : OrderedMap String ServerRecord
  deriving DecidableEq

open Json

namespace ServerProperties

def toJson (p : ServerProperties) : Value :=
  .ofMembers [("path", p.path.map .text), ("internalAddress", some (.text p.internalAddress)),
    ("internalUrl", p.internalUrl.map .text)]

def decoder : Decoder ServerProperties := Record.decoder <|
  ServerProperties.mk <$> .maybe "path" .text <*> .required "internalAddress" .text
    <*> .maybe "internalUrl" .text

end ServerProperties

namespace ServerRecord

def toJson (s : ServerRecord) : Value :=
  .ofMembers [("ref", some (.text s.ref)), ("protocol", s.protocol.map .text),
    ("address", some (.text s.address)), ("url", s.url.map .text),
    ("properties", some s.properties.toJson)]

def decoder : Decoder ServerRecord := Record.decoder <|
  ServerRecord.mk <$> .required "ref" .text <*> .maybe "protocol" .text
    <*> .required "address" .text <*> .maybe "url" .text
    <*> .required "properties" ServerProperties.decoder

end ServerRecord

namespace RuntimeInfo

def toJson (r : RuntimeInfo) : Value :=
  .ofMembers [("properties", some (.textMap r.properties)), ("env", some (.textMap r.env)),
    ("servers", some (.ofMap (r.servers.mapValues fun _ => ServerRecord.toJson)))]

def decoder : Decoder RuntimeInfo := Record.decoder <|
  RuntimeInfo.mk <$> .required "properties" (.object .text) <*> .required "env" (.object .text)
    <*> .required "servers" (.object ServerRecord.decoder)

end RuntimeInfo
end ContainerBridge
