import ContainerBridge.OrderedMap
import ContainerBridge.Text.Basic
import ContainerBridge.Json.Decoder

/-! Environments of containers. -/

namespace ContainerBridge

/-- A variable; an entry without an equals sign has no value. -/
structure EnvVar where
  name : String
  value : Option String
  deriving DecidableEq, Repr

namespace EnvVar

/-- Reads an entry `NAME=VALUE`. -/
def ofEntry (entry : String) : EnvVar :=
  match Text.splitOnce '=' entry with
  | some (name, value) => ⟨name, some value⟩
  | none => ⟨entry, none⟩

/-- The variables of an environment by name; of two with one name the later stays. -/
def mapOf (env : List String) : OrderedMap String String :=
  .ofList (env.map fun e => ((ofEntry e).name, (ofEntry e).value.getD ""))

open Json

def toJson (v : EnvVar) : Value :=
  .ofMembers [("name", some (.text v.name)), ("value", some (.orNull (v.value.map .text)))]

def decoder : Decoder EnvVar := Record.decoder <|
  EnvVar.mk <$> .required "name" .text <*> .named "value" .text

end EnvVar
end ContainerBridge
