import ContainerBridge.Cluster.Resource

/-! The objects by which deployments, routes and job pods are created. -/

namespace ContainerBridge.Cluster
open Json

/-- The object with the members. -/
def record (members : List (String × Value)) : Value :=
  .ofMembers (members.map fun e => (e.1, some e.2))

/-- The name and project of an object that is created, and more. -/
def namesOf (name project : String) (more : List (String × Value)) : Value :=
  record (("name", .text name) :: ("namespace", .text project) :: more)

def DeploymentContainer.manifest (c : DeploymentContainer) : Value :=
  record [("name", .text c.name), ("image", .text c.image),
    ("imagePullPolicy", .text c.imagePullPolicy),
    ("ports", .array (c.ports.map fun p => record [("name", .text p.name),
      ("containerPort", .nat p.containerPort.toNat), ("protocol", .text p.protocol)])),
    ("env", .array (c.env.map fun v =>
      .ofMembers [("name", some (.text v.name)), ("value", v.value.map .text)])),
    ("volumeMounts", .array (c.volumeMounts.map fun m => record [("name", .text m.name),
      ("mountPath", .text m.mountPath), ("readOnly", .bool m.readOnly)])),
    ("securityContext", record [("privileged", .bool c.securityContext.privileged),
      ("runAsUser", .int c.securityContext.runAsUser.toInt)]),
    ("livenessProbe", record [
      ("tcpSocket", record [("port", .nat c.livenessProbe.port.toNat)]),
      ("initialDelaySeconds", .int c.livenessProbe.initialDelaySecs.toInt),
      ("timeoutSeconds", .int c.livenessProbe.timeoutSecs.toInt)])]

/-- The pods of a deployment carry the labels that it selects by. -/
def Deployment.manifest (d : Deployment) : Value :=
  let pod := record [("serviceAccountName", .text d.serviceAccount),
    ("securityContext", record [("runAsUser", .int d.runAsUser.toInt)]),
    ("containers", .array [d.container.manifest]),
    ("volumes", .array (d.volumes.map fun v =>
      record [("name", .text v.name), ("hostPath", record [("path", .text v.path)])]))]
  record [("apiVersion", .text "apps.openshift.io/v1"), ("kind", .text "DeploymentConfig"),
    ("metadata", namesOf d.name d.project []),
    ("spec", record [("replicas", .int d.replicas.toInt), ("selector", .textMap d.selector),
      ("triggers", .array (d.triggers.map fun t => record [("type", .text t)])),
      ("template", record [("metadata", record [("labels", .textMap d.selector)]),
        ("spec", pod)])])]

/-- Encrypted routes end the encryption at the edge and redirect plain requests. -/
def Route.manifest (r : Route) : Value :=
  let tls := record [("termination", .text "edge"),
    ("insecureEdgeTerminationPolicy", .text "Redirect")]
  record [("apiVersion", .text "route.openshift.io/v1"), ("kind", .text "Route"),
    ("metadata", namesOf r.name r.project [("labels", .textMap r.labels)]),
    ("spec", .ofMembers [("host", some (.text r.host)),
      ("to", some (record [("kind", .text "Service"), ("name", .text r.serviceName)])),
      ("port", some (record [("targetPort", .text r.targetPort)])),
      ("tls", if r.tls then some tls else none)])]

/-- The pod runs its command once, with the claim mounted. -/
def JobPod.manifest (j : JobPod) : Value :=
  let container := record [("name", .text j.name), ("image", .text j.image),
    ("imagePullPolicy", .text "IfNotPresent"), ("command", .texts j.command),
    ("securityContext", record [("privileged", .bool false)]),
    ("volumeMounts", .array [record [("name", .text j.claimName),
      ("mountPath", .text j.mountPath)]])]
  record [("apiVersion", .text "v1"), ("kind", .text "Pod"),
    ("metadata", namesOf j.name j.project []),
    ("spec", record [("containers", .array [container]), ("restartPolicy", .text "Never"),
      ("volumes", .array [record [("name", .text j.claimName),
        ("persistentVolumeClaim", record [("claimName", .text j.claimName)])]])])]

end ContainerBridge.Cluster
