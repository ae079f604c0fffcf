import ContainerBridge.Label
import ContainerBridge.Json.Decoder

/-! Descriptions of servers, given by a request or a configuration or carried by labels. -/

namespace ContainerBridge

/-- What is known of the server on a port. -/
structure ServerConf where
  ref : Option String := none
  port : String
  protocol : Option String := none
  path : Option String := none
  deriving DecidableEq, Repr

/-- Descriptions by port token. -/
abbrev ServerConfs := OrderedMap String ServerConf

namespace ServerConf

/-- The reference of a server that has none of its own. -/
def defaultRef (token : String) : String := "Server-" ++ Text.replaceChar '/' '-' token

/-- A port without a protocol is a TCP port. -/
def portToken (port : String) : String :=
  if port.toList.contains '/' then port else port ++ "/tcp"

/-- The descriptions by port token; of two for one token the later stays. -/
def normalize (confs : List ServerConf) : ServerConfs :=
  .ofList (confs.map fun c => (portToken c.port, { c with port := portToken c.port }))

/-- The label of a field, by the token or else by the port number alone. -/
def labelled (labels : OrderedMap String String) (token : String) (field : Label.Field) :
    Option String :=
  (labels.get? (Label.serverKey token field)).or
    (labels.get? (Label.serverKey (Text.upTo '/' token) field))

/-- The description of a token: the one that is given, or else what the labels say. -/
def resolve (token : String) (given : ServerConfs) (labels : OrderedMap String String) :
    ServerConf :=
  match given.get? token with
  | some conf => conf
  | none =>
    { ref := some ((labelled labels token .ref).getD (defaultRef token))
      port := token
      protocol := labelled labels token .protocol
      path := labelled labels token .path }

open Json

def toJson (c : ServerConf) : Value :=
  .ofMembers [("ref", c.ref.map .text), ("port", some (.text c.port)),
    ("protocol", c.protocol.map .text), ("path", c.path.map .text)]

def decoder : Decoder ServerConf := Record.decoder <|
  ServerConf.mk <$> .maybe "ref" .text <*> .required "port" .text <*> .maybe "protocol" .text
    <*> .maybe "path" .text

end ServerConf
end ContainerBridge
