import ContainerBridge.Json.Decoder

/-! Images, as the engine describes them. -/

namespace ContainerBridge

structure ImageConfig where
  exposedPorts : Option (OrderedMap String Json.OrderedValue) := none
  env : Option (List String) := none
  labels : Option (OrderedMap String String) := none

structure ImageInfo where
  id : String
  config : Option ImageConfig

/-- The port tokens that an image declares. -/
def ImageInfo.exposedPorts (i : ImageInfo) : List String :=
  ((i.config.bind ImageConfig.exposedPorts).map OrderedMap.keys).getD []

open Json

namespace ImageConfig

def toJson (c : ImageConfig) : Value :=
  .ofMembers [("ExposedPorts", some (.orNull (c.exposedPorts.map .orderedMap))),
    ("Env", some (.orNull (c.env.map .texts))),
    ("Labels", some (.orNull (c.labels.map .textMap)))]

def decoder : Decoder ImageConfig := Record.decoder <|
  ImageConfig.mk <$> .maybe "ExposedPorts" (.object .orderedValue) <*> .maybe "Env" (.list .text)
    <*> .maybe "Labels" (.object .text)

end ImageConfig

namespace ImageInfo

def toJson (i : ImageInfo) : Value :=
  .ofMembers [("Id", some (.text i.id)),
    ("Config", some (.orNull (i.config.map ImageConfig.toJson)))]

def decoder : Decoder ImageInfo := Record.decoder <|
  ImageInfo.mk <$> .optional "Id" "" .text <*> .maybe "Config" ImageConfig.decoder

end ImageInfo
end ContainerBridge
