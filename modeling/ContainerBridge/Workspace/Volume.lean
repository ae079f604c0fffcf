import ContainerBridge.Workspace.Name
import ContainerBridge.Json.Decoder

/-! Host directories that are mounted into a workspace. -/

namespace ContainerBridge

structure HostPathVolume where
  name : String
  path : String
  deriving DecidableEq, Repr

structure VolumeMount where
  name : String
  mountPath : String
  readOnly : Bool
  deriving DecidableEq, Repr

namespace Workspace

/-- A bind `hostPath:mountPath[:mode]`, taken apart. -/
structure Bind where
  hostPath : String
  mountPath : String
  mode : Option String
  deriving DecidableEq, Repr

/-- Reads a bind, whose two paths must not be empty. -/
def Bind.parse (bind : String) : Except SpecFault Bind :=
  match Text.splitOnce ':' bind with
  | none => .error (.badBind bind)
  | some (host, rest) =>
    let (mount, mode) := match Text.splitOnce ':' rest with
      | some (mount, mode) => (mount, some mode)
      | none => (rest, none)
    if host = "" || mount = "" then .error (.badBind bind) else .ok ⟨host, mount, mode⟩

/-- Whether the options of a mode, between commas, hold `ro`. -/
def Bind.readOnly (b : Bind) : Bool :=
  match b.mode with
  | some mode => (Text.splitAll ',' mode).contains "ro"
  | none => false

/-- What a bind is for, by the words in it. -/
def bindKind (bind : String) : String :=
  if Text.holds "ws-agent" bind then "wsagent-lib"
  else if Text.holds "terminal" bind then "terminal"
  else if Text.holds "workspaces" bind then "project"
  else "unknown-volume"

def volumeBase (id bind : String) : String := "ws-" ++ id ++ "-" ++ bindKind bind

/-- The name of a volume of which `earlier` others have the same base. -/
def volumeName (base : String) (earlier : Nat) : String :=
  normalizeName (if earlier = 0 then base else base ++ "-" ++ toString (earlier + 1))

/-- Volumes and mounts of the binds, after binds whose volumes have the bases `seen`. -/
def volumesAfter (id : String) (seen : List String) :
    List String → Except SpecFault (List (HostPathVolume × VolumeMount))
  | [] => .ok []
  | bind :: rest => match Bind.parse bind with
    | .error e => .error e
    | .ok b =>
      let base := volumeBase id bind
      let name := volumeName base (seen.count base)
      (volumesAfter id (base :: seen) rest).map
        ((⟨name, b.hostPath⟩, ⟨name, b.mountPath, b.readOnly⟩) :: ·)

/-- The volume and the mount of each bind. -/
def volumes (id : String) (binds : List String) :
    Except SpecFault (List HostPathVolume × List VolumeMount) :=
  (volumesAfter id [] binds).map List.unzip

end Workspace

open Json

namespace HostPathVolume

def toJson (v : HostPathVolume) : Value :=
  .ofMembers [("name", some (.text v.name)), ("path", some (.text v.path))]

def decoder : Decoder HostPathVolume := Record.decoder <|
  HostPathVolume.mk <$> .required "name" .text <*> .required "path" .text

end HostPathVolume

namespace VolumeMount

def toJson (m : VolumeMount) : Value :=
  .ofMembers [("name", some (.text m.name)), ("mount_path", some (.text m.mountPath)),
    ("read_only", some (.bool m.readOnly))]

def decoder : Decoder VolumeMount := Record.decoder <|
  VolumeMount.mk <$> .required "name" .text <*> .required "mount_path" .text
    <*> .required "read_only" .bool

end VolumeMount
end ContainerBridge
