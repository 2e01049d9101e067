import ServingOperator.Adoption
import ServingOperator.Cluster.Controller
import ServingOperator.Cluster.Server
import ServingOperator.Cluster.Watch
import ServingOperator.Configuration.Basic
import ServingOperator.Configuration.CommandLine
import ServingOperator.Configuration.Setting
import ServingOperator.CustomResource.Definition
import ServingOperator.CustomResource.Schema
import ServingOperator.Desired
import ServingOperator.Event
import ServingOperator.Failure
import ServingOperator.Identity
import ServingOperator.Json.Decode
import ServingOperator.Json.Reader
import ServingOperator.Json.Value
import ServingOperator.Json.Writer
import ServingOperator.Kind
import ServingOperator.Kubeconfig.Basic
import ServingOperator.Kubeconfig.Connection
import ServingOperator.Kubeconfig.Credential
import ServingOperator.Kubeconfig.Host
import ServingOperator.Kubeconfig.User
import ServingOperator.Logging.Filter
import ServingOperator.Logging.Level
import ServingOperator.Logging.Pattern
import ServingOperator.Logging.RollingFile
import ServingOperator.Logging.Setup
import ServingOperator.Main
import ServingOperator.Manifest.Endpoint
import ServingOperator.Manifest.Intent
import ServingOperator.Manifest.Metadata
import ServingOperator.Manifest.Workload
import ServingOperator.Number.Binary64
import ServingOperator.Number.Literal
import ServingOperator.Pairs
import ServingOperator.Pass.Basic
import ServingOperator.Pass.Dispatch
import ServingOperator.Pass.Reconcile
import ServingOperator.Pass.Run
import ServingOperator.Policy
import ServingOperator.Program
import ServingOperator.Rest.Client
import ServingOperator.Rest.Failure
import ServingOperator.Rest.Message
import ServingOperator.Rest.Place
import ServingOperator.Rest.Target
import ServingOperator.Rest.Url
import ServingOperator.Store
import ServingOperator.Text.Alphanumeric
import ServingOperator.Text.Base64
import ServingOperator.Text.Blank
import ServingOperator.Text.Bytes
import ServingOperator.Text.Path
import ServingOperator.Text.Quoted
import ServingOperator.Text.Split
import ServingOperator.Text.Unprintable
import ServingOperator.Time.Instant
import ServingOperator.Trust.Certificate
import ServingOperator.Trust.Der
import ServingOperator.Trust.Identity
import ServingOperator.Trust.Pem
import ServingOperator.Trust.PrivateKey
import ServingOperator.Version
import ServingOperator.Yaml.Cursor
import ServingOperator.Yaml.Decode
import ServingOperator.Yaml.Document
import ServingOperator.Yaml.Line
import ServingOperator.Yaml.Node
import ServingOperator.Yaml.Reader
import ServingOperator.Yaml.Scalar
import ServingOperator.Yaml.Token.Basic
import ServingOperator.Yaml.Token.Block
import ServingOperator.Yaml.Token.Directive
import ServingOperator.Yaml.Token.Folding
import ServingOperator.Yaml.Token.Lexer
import ServingOperator.Yaml.Token.Plain
import ServingOperator.Yaml.Token.Quoted
import ServingOperator.Yaml.Token.Tag
import ServingOperator.Yaml.Value
import ServingOperator.Yaml.Writer
import ServingOperator.Proofs.ReadBack
import ServingOperator.Proofs.ManifestForms
import ServingOperator.Proofs.StoredObjects
import ServingOperator.Proofs.StoreCalls
import ServingOperator.Proofs.WrittenChildren
import ServingOperator.Proofs.Crowd
import ServingOperator.Proofs.PassStages
import ServingOperator.Proofs.PassPlan
import ServingOperator.Proofs.Convergence
import ServingOperator.Proofs.CallOrder
import ServingOperator.Proofs.LostUpdate
import ServingOperator.Proofs.Contention
import ServingOperator.Proofs.Recovery
import ServingOperator.Proofs.FirstFailure
import ServingOperator.Proofs.TextBytes
import ServingOperator.Proofs.RequestTargets
import ServingOperator.Proofs.DefiniteAbsence
import ServingOperator.Proofs.JsonText
import ServingOperator.Proofs.PlainForms
import ServingOperator.Proofs.ApiServer
import ServingOperator.Proofs.ClusterServer
import ServingOperator.Proofs.Lockstep
import ServingOperator.Proofs.Cancellation
import ServingOperator.Proofs.Provenance
import ServingOperator.Proofs.Ownership
import ServingOperator.Proofs.Addresses
import ServingOperator.Proofs.OptionWords
import ServingOperator.Proofs.WatchScope
import ServingOperator.Proofs.RecordFields
import ServingOperator.Proofs.IntentForms
import ServingOperator.Proofs.SchemaDocuments
import ServingOperator.Proofs.AdmittedIntents
import ServingOperator.Proofs.TypedMap
import ServingOperator.Proofs.StoreAnswers
import ServingOperator.Proofs.PassSteps
import ServingOperator.Proofs.Independence
import ServingOperator.Proofs.Dispatches
import ServingOperator.Proofs.CachedCopies
import ServingOperator.Proofs.EffectiveIntent
import ServingOperator.Proofs.ClientFailures
import ServingOperator.Proofs.Traffic
import ServingOperator.Proofs.SettingSources
import ServingOperator.Proofs.ConfiguredRuns
import ServingOperator.Proofs.OwnFields
import ServingOperator.Proofs.StagePaths
import ServingOperator.Proofs.EventLog
import ServingOperator.Proofs.Reports
import ServingOperator.Proofs.QuotedText
import ServingOperator.Proofs.UnknownRuntimes
import ServingOperator.Proofs.Paths
import ServingOperator.Proofs.LogFiles
import ServingOperator.Proofs.StoredVersions
import ServingOperator.Proofs.BuildVersions
import ServingOperator.Proofs.BuildVersions
