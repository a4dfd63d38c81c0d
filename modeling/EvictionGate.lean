import EvictionGate.Asn1.Content
import EvictionGate.Asn1.Element
import EvictionGate.Asn1.Form
import EvictionGate.Binary64.Basic
import EvictionGate.Binary64.Shortest
import EvictionGate.Cluster.Memory
import EvictionGate.Decision.Deadline
import EvictionGate.Decision.Decide
import EvictionGate.Decision.Rounds
import EvictionGate.Decision.Tree
import EvictionGate.Dict
import EvictionGate.GateError
import EvictionGate.Handling
import EvictionGate.Http.Authority
import EvictionGate.Http.Message
import EvictionGate.Http.StatusCode
import EvictionGate.Http.Target
import EvictionGate.Http1.Answer
import EvictionGate.Http1.Chunked
import EvictionGate.Http1.Decoder
import EvictionGate.Http1.Framing
import EvictionGate.Http1.Head
import EvictionGate.Json.MergePatch
import EvictionGate.Json.Number
import EvictionGate.Json.Printer
import EvictionGate.Json.Raw
import EvictionGate.Json.Reader
import EvictionGate.Json.Record
import EvictionGate.Json.Schema
import EvictionGate.Json.Value
import EvictionGate.Kubernetes.AnnotationPatch
import EvictionGate.Kubernetes.ApiRequest
import EvictionGate.Kubernetes.Container
import EvictionGate.Kubernetes.DynamicObject
import EvictionGate.Kubernetes.Eviction
import EvictionGate.Kubernetes.ObjectMeta
import EvictionGate.Kubernetes.Pod
import EvictionGate.Kubernetes.PodSpec
import EvictionGate.Kubernetes.PodStatus
import EvictionGate.Kubernetes.ResourceType
import EvictionGate.Kubernetes.Volume
import EvictionGate.Log
import EvictionGate.Main
import EvictionGate.Proofs.Cluster.Flag
import EvictionGate.Proofs.Cluster.FlagKey
import EvictionGate.Proofs.Cluster.Home
import EvictionGate.Proofs.Cluster.View
import EvictionGate.Proofs.Decision.Candidate
import EvictionGate.Proofs.Decision.Course
import EvictionGate.Proofs.Decision.Dialogue
import EvictionGate.Proofs.Decision.Footprint
import EvictionGate.Proofs.Decision.Independence
import EvictionGate.Proofs.Decision.Interleaving
import EvictionGate.Proofs.Decision.Linearizable
import EvictionGate.Proofs.Decision.Pending
import EvictionGate.Proofs.Decision.Serial
import EvictionGate.Proofs.Decision.SharedFlag
import EvictionGate.Proofs.Decision.Situation
import EvictionGate.Proofs.Decision.Solo
import EvictionGate.Proofs.Decision.Stage
import EvictionGate.Proofs.Decision.Stranded
import EvictionGate.Proofs.Decision.Transcript
import EvictionGate.Proofs.Decision.Trial
import EvictionGate.Proofs.Decision.VerdictTable
import EvictionGate.Proofs.History.Chronicle
import EvictionGate.Proofs.History.Cycle
import EvictionGate.Proofs.History.Reincarnation
import EvictionGate.Proofs.History.Retry
import EvictionGate.Proofs.History.SameName
import EvictionGate.Proofs.Http.ContentType
import EvictionGate.Proofs.Json.Changes
import EvictionGate.Proofs.Json.Grammar
import EvictionGate.Proofs.Json.Meaning
import EvictionGate.Proofs.Json.Members
import EvictionGate.Proofs.Json.Numeral
import EvictionGate.Proofs.Json.Text
import EvictionGate.Proofs.Kubernetes.Address
import EvictionGate.Proofs.Kubernetes.Annotated
import EvictionGate.Proofs.Kubernetes.PatchLaws
import EvictionGate.Proofs.Review.Accepted
import EvictionGate.Proofs.Review.Answer
import EvictionGate.Proofs.Review.DryRun
import EvictionGate.Proofs.Review.FailsClosed
import EvictionGate.Proofs.Review.Gates
import EvictionGate.Proofs.Review.PodRequests
import EvictionGate.Proofs.Review.Requests
import EvictionGate.Proofs.Review.Routes
import EvictionGate.Proofs.Review.Truncation
import EvictionGate.Proofs.Review.Unread
import EvictionGate.Proofs.Server.LostAnswer
import EvictionGate.Proofs.Server.Refinement
import EvictionGate.Proofs.Server.Representation
import EvictionGate.Proofs.Serving.DrainCount
import EvictionGate.Proofs.Serving.Service
import EvictionGate.Proofs.Serving.Shutdown
import EvictionGate.Proofs.Serving.Stopping
import EvictionGate.Proofs.Settings.Listen
import EvictionGate.Proofs.Settings.Load
import EvictionGate.Proofs.Tracking.Lookup
import EvictionGate.Review.Request
import EvictionGate.Review.Response
import EvictionGate.Serving.Connection
import EvictionGate.Serving.Intake
import EvictionGate.Serving.Listener
import EvictionGate.Serving.Start
import EvictionGate.Serving.Watch
import EvictionGate.Settings
import EvictionGate.Simulation.ApiServer
import EvictionGate.Simulation.Network
import EvictionGate.SocketAddress
import EvictionGate.Startup.Connection
import EvictionGate.Startup.Kubeconfig
import EvictionGate.Startup.LogFilter
import EvictionGate.Startup.Pattern
import EvictionGate.Startup.Process
import EvictionGate.Target
import EvictionGate.Text.Alphanumeric
import EvictionGate.Text.Blank
import EvictionGate.Text.Invisible
import EvictionGate.Text.Quoted
import EvictionGate.Text.Utf8
import EvictionGate.Time.Instant
import EvictionGate.Time.Span
import EvictionGate.Tls.Agreement
import EvictionGate.Tls.Alert
import EvictionGate.Tls.Base64
import EvictionGate.Tls.Certificate
import EvictionGate.Tls.ClientHello
import EvictionGate.Tls.Curve
import EvictionGate.Tls.Field
import EvictionGate.Tls.Handshake
import EvictionGate.Tls.HelloExtension
import EvictionGate.Tls.Identity
import EvictionGate.Tls.Name
import EvictionGate.Tls.Pem
import EvictionGate.Tls.PrivateKey
import EvictionGate.Tls.PublicKey
import EvictionGate.Tls.Record
import EvictionGate.Tls.Signature
import EvictionGate.Tls.Version
import EvictionGate.Tracking.Registry
import EvictionGate.Tracking.Tracker
import EvictionGate.Verdict
import EvictionGate.Webhook
import EvictionGate.Yaml.Cursor
import EvictionGate.Yaml.Document
import EvictionGate.Yaml.Scalar
import EvictionGate.Yaml.Shape
import EvictionGate.Yaml.Token
import EvictionGate.Yaml.Value
