import ContainerBridge.Json.Shape
import ContainerBridge.Timestamp

/-! The shapes of the objects that the cluster's interface knows. -/

namespace ContainerBridge.Cluster.Schema
open Json

/-- Members of one shape. -/
def each (s : Shape) (names : List String) : List (String × Shape) := names.map (·, s)

def texts (names : List String) : List (String × Shape) := each .text names

def time : Shape := .textOf fun s => (Timestamp.parse s).isSome

def listOf (members : List (String × Shape)) : Shape := .list (.object members)

/-- An object that refers to another by its name, and the object itself. -/
def named : Shape := .object (texts ["name"])

def optionalRef : Shape := .object [("name", .text), ("optional", .bool)]

/-! Names and selections. -/

def owner : List (String × Shape) :=
  texts ["apiVersion", "kind", "name", "uid"] ++ each .bool ["blockOwnerDeletion", "controller"]

def managedField : List (String × Shape) :=
  texts ["apiVersion", "fieldsType", "manager", "operation", "subresource"]
    ++ [("fieldsV1", .any), ("time", time)]

def metadata : Shape := .object <|
  texts ["generateName", "name", "namespace", "resourceVersion", "selfLink", "uid"]
    ++ each .textMap ["annotations", "labels"]
    ++ each time ["creationTimestamp", "deletionTimestamp"]
    ++ each .int64 ["deletionGracePeriodSeconds", "generation"]
    ++ [("finalizers", .texts), ("managedFields", listOf managedField),
      ("ownerReferences", listOf owner)]

def listMetadata : Shape := .object <|
  texts ["continue", "resourceVersion", "selfLink"] ++ [("remainingItemCount", .int64)]

def requirement : List (String × Shape) := texts ["key", "operator"] ++ [("values", .texts)]

def labelSelector : Shape :=
  .object [("matchExpressions", listOf requirement), ("matchLabels", .textMap)]

def condition : List (String × Shape) :=
  texts ["message", "reason", "status", "type"] ++ [("lastTransitionTime", time)]

/-! Containers. -/

def keyRef : Shape := .object <| texts ["key", "name"] ++ [("optional", .bool)]

def fieldRef : Shape := .object (texts ["apiVersion", "fieldPath"])

def resourceFieldRef : Shape := .object (texts ["containerName", "divisor", "resource"])

def envVariable : List (String × Shape) :=
  texts ["name", "value"] ++ [("valueFrom", .object [("configMapKeyRef", keyRef),
    ("fieldRef", fieldRef), ("resourceFieldRef", resourceFieldRef), ("secretKeyRef", keyRef)])]

def envSource : List (String × Shape) :=
  [("configMapRef", optionalRef), ("prefix", .text), ("secretRef", optionalRef)]

def handlers : List (String × Shape) :=
  [("exec", .object [("command", .texts)]),
    ("httpGet", .object <| texts ["host", "path", "scheme"]
      ++ [("httpHeaders", listOf (texts ["name", "value"])), ("port", .textOrInt)]),
    ("tcpSocket", .object [("host", .text), ("port", .textOrInt)])]

def probe : Shape := .object <| handlers
  ++ each .int32 ["failureThreshold", "initialDelaySeconds", "periodSeconds", "successThreshold",
    "timeoutSeconds"]
  ++ [("grpc", .object [("port", .int32), ("service", .text)]),
    ("terminationGracePeriodSeconds", .int64)]

def securityParts : List (String × Shape) :=
  each .int64 ["runAsGroup", "runAsUser"]
    ++ [("runAsNonRoot", .bool),
      ("seLinuxOptions", .object (texts ["level", "role", "type", "user"])),
      ("seccompProfile", .object (texts ["localhostProfile", "type"])),
      ("windowsOptions", .object <| texts ["gmsaCredentialSpec", "gmsaCredentialSpecName",
        "runAsUserName"] ++ [("hostProcess", .bool)])]

def securityContext : Shape := .object <| securityParts
  ++ each .bool ["allowPrivilegeEscalation", "privileged", "readOnlyRootFilesystem"]
  ++ [("capabilities", .object (each .texts ["add", "drop"])), ("procMount", .text)]

def podSecurityContext : Shape := .object <| securityParts
  ++ [("fsGroup", .int64), ("fsGroupChangePolicy", .text), ("supplementalGroups", .list .int64),
    ("sysctls", listOf (texts ["name", "value"]))]

def resources : Shape := .object <|
  each .textMap ["limits", "requests"] ++ [("claims", .list named)]

def containerPort : List (String × Shape) :=
  texts ["hostIP", "name", "protocol"] ++ each .int32 ["containerPort", "hostPort"]

def volumeMount : List (String × Shape) :=
  texts ["mountPath", "mountPropagation", "name", "subPath", "subPathExpr"] ++ [("readOnly", .bool)]

def container : List (String × Shape) :=
  texts ["image", "imagePullPolicy", "name", "restartPolicy", "terminationMessagePath",
      "terminationMessagePolicy", "workingDir"]
    ++ each .bool ["stdin", "stdinOnce", "tty"] ++ each .texts ["args", "command"]
    ++ each probe ["livenessProbe", "readinessProbe", "startupProbe"]
    ++ [("env", listOf envVariable), ("envFrom", listOf envSource),
      ("lifecycle", .object (each (.object handlers) ["postStart", "preStop"])),
      ("ports", listOf containerPort),
      ("resizePolicy", listOf (texts ["resourceName", "restartPolicy"])),
      ("resources", resources), ("securityContext", securityContext),
      ("volumeDevices", listOf (texts ["devicePath", "name"])),
      ("volumeMounts", listOf volumeMount)]

/-! Volumes. -/

/-- A source of a volume: texts, and whether it is mounted read-only. -/
def source (names : List String) (more : List (String × Shape)) : Shape :=
  .object (("readOnly", .bool) :: texts names ++ more)

def keyPaths : Shape := listOf <| texts ["key", "path"] ++ [("mode", .int32)]

def mapSource (name : String) (more : List (String × Shape)) : Shape :=
  .object <| [(name, .text), ("items", keyPaths), ("optional", .bool)] ++ more

def downward (more : List (String × Shape)) : Shape := .object <|
  ("items", listOf [("fieldRef", fieldRef), ("mode", .int32), ("path", .text),
    ("resourceFieldRef", resourceFieldRef)]) :: more

def defaultMode : List (String × Shape) := [("defaultMode", .int32)]

def secretRef : List (String × Shape) := [("secretRef", named)]

def claim : Shape := .object <| texts ["storageClassName", "volumeMode", "volumeName"]
  ++ [("accessModes", .texts), ("dataSource", .object (texts ["apiGroup", "kind", "name"])),
    ("dataSourceRef", .object (texts ["apiGroup", "kind", "name", "namespace"])),
    ("resources", resources), ("selector", labelSelector)]

def projection : List (String × Shape) :=
  [("configMap", mapSource "name" []), ("downwardAPI", downward []),
    ("secret", mapSource "name" []),
    ("serviceAccountToken",
      .object (texts ["audience", "path"] ++ [("expirationSeconds", .int64)]))]

def volume : List (String × Shape) :=
  [("name", .text),
    ("awsElasticBlockStore", source ["fsType", "volumeID"] [("partition", .int32)]),
    ("azureDisk", source ["cachingMode", "diskName", "diskURI", "fsType", "kind"] []),
    ("azureFile", source ["secretName", "shareName"] []),
    ("cephfs", source ["path", "secretFile", "user"] (("monitors", .texts) :: secretRef)),
    ("cinder", source ["fsType", "volumeID"] secretRef),
    ("configMap", mapSource "name" defaultMode),
    ("csi", source ["driver", "fsType"]
      [("nodePublishSecretRef", named), ("volumeAttributes", .textMap)]),
    ("downwardAPI", downward defaultMode),
    ("emptyDir", .object (texts ["medium", "sizeLimit"])),
    ("ephemeral", .object
      [("volumeClaimTemplate", .object [("metadata", metadata), ("spec", claim)])]),
    ("fc", source ["fsType"] [("lun", .int32), ("targetWWNs", .texts), ("wwids", .texts)]),
    ("flexVolume", source ["driver", "fsType"] (("options", .textMap) :: secretRef)),
    ("flocker", .object (texts ["datasetName", "datasetUUID"])),
    ("gcePersistentDisk", source ["fsType", "pdName"] [("partition", .int32)]),
    ("gitRepo", .object (texts ["directory", "repository", "revision"])),
    ("glusterfs", source ["endpoints", "path"] []),
    ("hostPath", .object (texts ["path", "type"])),
    ("iscsi", source ["fsType", "initiatorName", "iqn", "iscsiInterface", "targetPortal"]
      ([("chapAuthDiscovery", .bool), ("chapAuthSession", .bool), ("lun", .int32),
        ("portals", .texts)] ++ secretRef)),
    ("nfs", source ["path", "server"] []),
    ("persistentVolumeClaim", source ["claimName"] []),
    ("photonPersistentDisk", .object (texts ["fsType", "pdID"])),
    ("portworxVolume", source ["fsType", "volumeID"] []),
    ("projected", .object (("sources", listOf projection) :: defaultMode)),
    ("quobyte", source ["group", "registry", "tenant", "user", "volume"] []),
    ("rbd", source ["fsType", "image", "keyring", "pool", "user"]
      (("monitors", .texts) :: secretRef)),
    ("scaleIO", source ["fsType", "gateway", "protectionDomain", "storageMode", "storagePool",
      "system", "volumeName"] (("sslEnabled", .bool) :: secretRef)),
    ("secret", mapSource "secretName" defaultMode),
    ("storageos", source ["fsType", "volumeName", "volumeNamespace"] secretRef),
    ("vsphereVolume", .object
      (texts ["fsType", "storagePolicyID", "storagePolicyName", "volumePath"]))]

/-! Pods. -/

def nodeTerm : Shape := .object (each (listOf requirement) ["matchExpressions", "matchFields"])

def podTerm : Shape := .object <| each labelSelector ["labelSelector", "namespaceSelector"]
  ++ [("namespaces", .texts), ("topologyKey", .text)]

/-- What is asked for, and what is wished for with a weight. -/
def scheduling (required wished : Shape) (name : String) : Shape := .object
  [("requiredDuringSchedulingIgnoredDuringExecution", required),
    ("preferredDuringSchedulingIgnoredDuringExecution",
      listOf [(name, wished), ("weight", .int32)])]

def affinity : Shape := .object
  [("nodeAffinity",
      scheduling (.object [("nodeSelectorTerms", .list nodeTerm)]) nodeTerm "preference"),
    ("podAffinity", scheduling (.list podTerm) podTerm "podAffinityTerm"),
    ("podAntiAffinity", scheduling (.list podTerm) podTerm "podAffinityTerm")]

def spreading : List (String × Shape) :=
  texts ["nodeAffinityPolicy", "nodeTaintsPolicy", "topologyKey", "whenUnsatisfiable"]
    ++ each .int32 ["maxSkew", "minDomains"]
    ++ [("labelSelector", labelSelector), ("matchLabelKeys", .texts)]

def toleration : List (String × Shape) :=
  texts ["effect", "key", "operator", "value"] ++ [("tolerationSeconds", .int64)]

def podSpec : Shape := .object <|
  texts ["dnsPolicy", "hostname", "nodeName", "preemptionPolicy", "priorityClassName",
      "restartPolicy", "runtimeClassName", "schedulerName", "serviceAccount", "serviceAccountName",
      "subdomain"]
    ++ each .bool ["automountServiceAccountToken", "enableServiceLinks", "hostIPC", "hostNetwork",
      "hostPID", "hostUsers", "setHostnameAsFQDN", "shareProcessNamespace"]
    ++ each .int64 ["activeDeadlineSeconds", "terminationGracePeriodSeconds"]
    ++ each .textMap ["nodeSelector", "overhead"]
    ++ each (listOf container) ["containers", "initContainers"]
    ++ each (.list named) ["imagePullSecrets", "schedulingGates"]
    ++ [("affinity", affinity),
      ("dnsConfig", .object <| each .texts ["nameservers", "searches"]
        ++ [("options", listOf (texts ["name", "value"]))]),
      ("ephemeralContainers", listOf (("targetContainerName", .text) :: container)),
      ("hostAliases", listOf [("hostnames", .texts), ("ip", .text)]),
      ("os", named), ("priority", .int32), ("readinessGates", listOf (texts ["conditionType"])),
      ("resourceClaims", listOf [("name", .text),
        ("source", .object (texts ["resourceClaimName", "resourceClaimTemplateName"]))]),
      ("securityContext", podSecurityContext), ("tolerations", listOf toleration),
      ("topologySpreadConstraints", listOf spreading), ("volumes", listOf volume)]

def containerState : Shape := .object
  [("running", .object [("startedAt", time)]),
    ("terminated", .object <| texts ["containerID", "message", "reason"]
      ++ each .int32 ["exitCode", "signal"] ++ each time ["finishedAt", "startedAt"]),
    ("waiting", .object (texts ["message", "reason"]))]

def containerStatus : List (String × Shape) :=
  texts ["containerID", "image", "imageID", "name"] ++ each .bool ["ready", "started"]
    ++ each containerState ["lastState", "state"]
    ++ [("allocatedResources", .textMap), ("resources", resources), ("restartCount", .int32)]

def podStatus : Shape := .object <|
  texts ["hostIP", "message", "nominatedNodeName", "phase", "podIP", "qosClass", "reason", "resize"]
    ++ each (listOf containerStatus)
      ["containerStatuses", "ephemeralContainerStatuses", "initContainerStatuses"]
    ++ each (listOf (texts ["ip"])) ["hostIPs", "podIPs"]
    ++ [("conditions", listOf (("lastProbeTime", time) :: condition)),
      ("resourceClaimStatuses", listOf (texts ["name", "resourceClaimName"])), ("startTime", time)]

/-! Objects. -/

/-- An object of the kind, which may leave its kind and the version of the interface unsaid. -/
def object (kind : String) (spec status : Shape) : Shape := .object
  [("apiVersion", .exactly "v1"), ("kind", .exactly kind), ("metadata", metadata), ("spec", spec),
    ("status", status)]

def pod : Shape := object "Pod" podSpec podStatus

def servicePort : List (String × Shape) :=
  texts ["appProtocol", "name", "protocol"] ++ each .int32 ["nodePort", "port"]
    ++ [("targetPort", .textOrInt)]

def serviceSpec : Shape := .object <|
  texts ["clusterIP", "externalName", "externalTrafficPolicy", "internalTrafficPolicy",
      "ipFamilyPolicy", "loadBalancerClass", "loadBalancerIP", "sessionAffinity", "type"]
    ++ each .bool ["allocateLoadBalancerNodePorts", "publishNotReadyAddresses"]
    ++ each .texts ["clusterIPs", "externalIPs", "ipFamilies", "loadBalancerSourceRanges"]
    ++ [("healthCheckNodePort", .int32), ("ports", listOf servicePort), ("selector", .textMap),
      ("sessionAffinityConfig", .object [("clientIP", .object [("timeoutSeconds", .int32)])])]

def ingress : List (String × Shape) :=
  texts ["hostname", "ip"]
    ++ [("ports", listOf [("error", .text), ("port", .int32), ("protocol", .text)])]

def serviceStatus : Shape := .object
  [("conditions", listOf (("observedGeneration", .int64) :: condition)),
    ("loadBalancer", .object [("ingress", listOf ingress)])]

def service : Shape := object "Service" serviceSpec serviceStatus

def project : Shape := object "Namespace" (.object [("finalizers", .texts)])
  (.object [("conditions", listOf condition), ("phase", .text)])

def replicationController : Shape := object "ReplicationController"
  (.object <| each .int32 ["minReadySeconds", "replicas"] ++ [("selector", .textMap),
    ("template", .object [("metadata", metadata), ("spec", podSpec)])])
  (.object <| each .int32 ["availableReplicas", "fullyLabeledReplicas", "readyReplicas", "replicas"]
    ++ [("conditions", listOf condition), ("observedGeneration", .int64)])

end ContainerBridge.Cluster.Schema
