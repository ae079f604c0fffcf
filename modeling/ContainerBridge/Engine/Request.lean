import ContainerBridge.Container.Image
import ContainerBridge.Container.Info
import ContainerBridge.Container.Spec

/-! Calls to the container engine. -/

namespace ContainerBridge.Engine

inductive Request where
  /-- No answer for an image that the engine does not know. -/
  | inspectImage (image : String)
  /-- No answer for a container that the engine does not know. -/
  | inspectContainer (id : String)
  | createContainer (spec : ContainerSpec)
  /-- Answers whether there was a container to remove. -/
  | removeContainer (id : String) (force volumes : Bool)
  | ping
  deriving DecidableEq

namespace Request

@[reducible] def Answer : Request → Type
  | inspectImage _ => Option ImageInfo
  | inspectContainer _ => Option ContainerInfo
  | createContainer _ => ContainerCreated
  | removeContainer _ _ _ => Bool
  | ping => Unit

def method : Request → String
  | inspectImage _ => "inspect_image"
  | inspectContainer _ => "inspect_container"
  | createContainer _ => "create_container"
  | removeContainer _ _ _ => "remove_container"
  | ping => "ping"

end Request
end ContainerBridge.Engine
