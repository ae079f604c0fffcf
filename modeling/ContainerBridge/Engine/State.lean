import ContainerBridge.Engine.Request
import ContainerBridge.Error

/-! An engine kept in memory, which serves fixed images and the containers it was given. -/

namespace ContainerBridge.Engine

structure State where
  images : OrderedMap String ImageInfo := .empty
  containers : OrderedMap String ContainerInfo := .empty
  /-- The requests for containers, in order. -/
  created : List ContainerSpec := []

namespace State

/-- The engine with an image that declares ports. -/
def withImage (s : State) (name : String) (ports : List String) : State :=
  let exposed := OrderedMap.ofList (ports.map fun p => (p, Json.OrderedValue.emptyObject))
  let image : ImageInfo :=
    { id := "sha256:" ++ name, config := some { exposedPorts := some exposed } }
  { s with images := s.images.insert name image }

def withContainer (s : State) (info : ContainerInfo) : State :=
  { s with containers := s.containers.insert info.id info }

/-- The container with the id, or the first one whose id begins with it. -/
def find (s : State) (id : String) : Option ContainerInfo :=
  (s.containers.get? id).or
    ((s.containers.entries.find? fun e => Text.startsWith id e.1).map (·.2))

/-- The id of the `n`-th container that is created. -/
def newId (n : Nat) : String :=
  let digits := Nat.toDigits 16 n
  String.ofList (List.replicate (64 - digits.length) '0' ++ digits)

def createContainer (s : State) (spec : ContainerSpec) : ContainerCreated × State :=
  let id := newId (s.created.length + 1)
  let info : ContainerInfo :=
    { id := id, name := some ("/" ++ spec.name), image := some spec.image }
  (⟨id, []⟩, { s.withContainer info with created := s.created ++ [spec] })

/-- The engine's reply to a call, and the engine after it. -/
def answer : (q : Request) → State → Except EngineFailure q.Answer × State
  | .inspectImage image, s => (.ok (s.images.get? image), s)
  | .inspectContainer id, s => (.ok (s.find id), s)
  | .createContainer spec, s => let (c, s) := s.createContainer spec; (.ok c, s)
  | .removeContainer id _ _, s =>
    (.ok (s.containers.contains id), { s with containers := s.containers.erase id })
  | .ping, s => (.ok (), s)

end State
end ContainerBridge.Engine
