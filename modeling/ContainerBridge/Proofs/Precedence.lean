import ContainerBridge.Proofs.Entries
import ContainerBridge.Proofs.Inspection

/-! The descriptions of the servers in a report. With either connector the last server that was
given for a token goes before all labels, else the label of the token before that of its port. -/

namespace ContainerBridge

namespace ServerConf

/-- A port stands for a token: for itself if it has a slash, and else for a TCP port. -/
inductive StandsFor (port : String) : String → Prop
  | written (h : '/' ∈ port.toList) : StandsFor port port
  | bare (h : '/' ∉ port.toList) : StandsFor port (port ++ "/tcp")

/-- What stands before the first slash of a token. -/
def portOf (token : String) : String := String.ofList (token.toList.takeWhile (· ≠ '/'))

variable {confs : List ServerConf} {labels : OrderedMap String String} {token : String}

/-- A port with its protocol and a bare one may be the same token. -/
example : ((normalize [⟨some "ssh", "22/tcp", none, none⟩, ⟨none, "22", some "sftp", none⟩]).get?
    "22/tcp").map protocol = some (some "sftp") := by decide +kernel

theorem upTo_slash (token : String) : Text.upTo '/' token = portOf token := by
  rw [portOf, ← Text.toList_upTo, String.ofList_toList]

end ServerConf

theorem AddressStrategy.get?_resolve (s : AddressStrategy) (n : ObservedNetwork)
    (confs : ServerConfs) (token : String) : (s.resolve n confs).get? token =
      (n.binding token).map fun b =>
        .make token b (ServerConf.resolve token confs n.labels) (s.plan n) := by
  rw [AddressStrategy.resolve, OrderedMap.get?_filterMap, ObservedNetwork.binding]
  cases n.ports.get? token <;> rfl

namespace Connector

/-- The servers of every container, before those of a request. -/
def systemServers : Connector → List ServerConf
  | engine s => s.systemServers
  | cluster s => s.systemServers

def strategy : Connector → AddressStrategy
  | engine s => s.strategy
  | cluster s => s.strategy

/-- The host of a container that has no gateway. -/
def fallbackHost : Connector → Option String
  | engine s => s.fallbackHost
  | cluster s => some s.nodeAddress

end Connector
end ContainerBridge
