import ContainerBridge.Action
import ContainerBridge.Agent.Client
import ContainerBridge.Agent.Layer
import ContainerBridge.Agent.Route
import ContainerBridge.Agent.Serve
import ContainerBridge.Agent.Settings
import ContainerBridge.Cli.Arguments
import ContainerBridge.Cli.Command
import ContainerBridge.Cli.Display
import ContainerBridge.Cli.Run
import ContainerBridge.Cli.Table
import ContainerBridge.Cluster.Access
import ContainerBridge.Cluster.Client
import ContainerBridge.Cluster.Manifest
import ContainerBridge.Cluster.Object
import ContainerBridge.Cluster.Reply
import ContainerBridge.Cluster.Request
import ContainerBridge.Cluster.Resource
import ContainerBridge.Cluster.Schema
import ContainerBridge.Cluster.State
import ContainerBridge.Config
import ContainerBridge.Connector
import ContainerBridge.Container.Image
import ContainerBridge.Container.Info
import ContainerBridge.Container.Runtime
import ContainerBridge.Container.Spec
import ContainerBridge.Duration
import ContainerBridge.Engine.Client
import ContainerBridge.Engine.Request
import ContainerBridge.Engine.State
import ContainerBridge.Error
import ContainerBridge.Event
import ContainerBridge.Health
import ContainerBridge.Http.Exchange
import ContainerBridge.Http.MediaType
import ContainerBridge.Http.Status
import ContainerBridge.Http.Target
import ContainerBridge.Json.Decoder
import ContainerBridge.Json.Number
import ContainerBridge.Json.Printer
import ContainerBridge.Json.Shape
import ContainerBridge.Json.Source
import ContainerBridge.Json.Value
import ContainerBridge.Label
import ContainerBridge.Lifecycle.Create
import ContainerBridge.Lifecycle.Discovery
import ContainerBridge.Lifecycle.Files
import ContainerBridge.Lifecycle.Inspect
import ContainerBridge.Lifecycle.Plan
import ContainerBridge.Lifecycle.Progress
import ContainerBridge.Lifecycle.Remove
import ContainerBridge.Lifecycle.Settings
import ContainerBridge.Main
import ContainerBridge.OrderedMap
import ContainerBridge.Poll.Basic
import ContainerBridge.Poll.Clock
import ContainerBridge.Port
import ContainerBridge.Program
import ContainerBridge.Proofs.Addressing
import ContainerBridge.Proofs.Aftermath
import ContainerBridge.Proofs.AnnotationNames
import ContainerBridge.Proofs.Attempts
import ContainerBridge.Proofs.Calls
import ContainerBridge.Proofs.Cancellation
import ContainerBridge.Proofs.Case
import ContainerBridge.Proofs.Ceiling
import ContainerBridge.Proofs.Coherence
import ContainerBridge.Proofs.Conduct
import ContainerBridge.Proofs.Confinement
import ContainerBridge.Proofs.Contention
import ContainerBridge.Proofs.Counters
import ContainerBridge.Proofs.Creation
import ContainerBridge.Proofs.Decimal
import ContainerBridge.Proofs.Decoding
import ContainerBridge.Proofs.Discovery
import ContainerBridge.Proofs.Entries
import ContainerBridge.Proofs.FilesJob
import ContainerBridge.Proofs.Health
import ContainerBridge.Proofs.Identifiers
import ContainerBridge.Proofs.Inspection
import ContainerBridge.Proofs.JobNames
import ContainerBridge.Proofs.Label
import ContainerBridge.Proofs.Measures
import ContainerBridge.Proofs.Neighbours
import ContainerBridge.Proofs.Operation
import ContainerBridge.Proofs.OrderedMap
import ContainerBridge.Proofs.Ownership
import ContainerBridge.Proofs.Percent
import ContainerBridge.Proofs.Poll
import ContainerBridge.Proofs.PortNames
import ContainerBridge.Proofs.PortTokens
import ContainerBridge.Proofs.Ports
import ContainerBridge.Proofs.Precedence
import ContainerBridge.Proofs.Printing
import ContainerBridge.Proofs.Program
import ContainerBridge.Proofs.Punctuality
import ContainerBridge.Proofs.Quiescence
import ContainerBridge.Proofs.Records
import ContainerBridge.Proofs.References
import ContainerBridge.Proofs.Registrations
import ContainerBridge.Proofs.Removal
import ContainerBridge.Proofs.Requests
import ContainerBridge.Proofs.Retry
import ContainerBridge.Proofs.Rollout
import ContainerBridge.Proofs.RoundTrip
import ContainerBridge.Proofs.Segments
import ContainerBridge.Proofs.Selection
import ContainerBridge.Proofs.ServerAddresses
import ContainerBridge.Proofs.ServerHosts
import ContainerBridge.Proofs.ServerLabels
import ContainerBridge.Proofs.ServerTexts
import ContainerBridge.Proofs.ServiceObjects
import ContainerBridge.Proofs.Stages
import ContainerBridge.Proofs.Teardown
import ContainerBridge.Proofs.TextSettings
import ContainerBridge.Proofs.Undisturbed
import ContainerBridge.Proofs.VariableValues
import ContainerBridge.Proofs.VolumeNames
import ContainerBridge.Proofs.Workload
import ContainerBridge.Proofs.WorkspaceId
import ContainerBridge.Proofs.World
import ContainerBridge.Server.Address
import ContainerBridge.Server.Conf
import ContainerBridge.Server.Record
import ContainerBridge.Text.Basic
import ContainerBridge.Text.Case
import ContainerBridge.Text.CaseTable
import ContainerBridge.Text.Quoted
import ContainerBridge.Text.Utf8
import ContainerBridge.Timestamp
import ContainerBridge.Url.Basic
import ContainerBridge.Url.Host
import ContainerBridge.Url.Percent
import ContainerBridge.Url.Punycode
import ContainerBridge.Workspace.Directory
import ContainerBridge.Workspace.Env
import ContainerBridge.Workspace.Name
import ContainerBridge.Workspace.Volume
import ContainerBridge.World
import ContainerBridge.Yaml.Document
import ContainerBridge.Yaml.Flow
import ContainerBridge.Yaml.Scalar
