import DatasetProvisioner.Annotations
import DatasetProvisioner.Cluster.Client
import DatasetProvisioner.Cluster.Store
import DatasetProvisioner.Cluster.Watch
import DatasetProvisioner.Configuration.Backends
import DatasetProvisioner.Configuration.Settings
import DatasetProvisioner.Configuration.Source
import DatasetProvisioner.Configuration.Validation
import DatasetProvisioner.Controller.NotificationLoop
import DatasetProvisioner.Controller.Pipeline
import DatasetProvisioner.Controller.WatchLoop
import DatasetProvisioner.Dataset.Layout
import DatasetProvisioner.Dataset.Options
import DatasetProvisioner.Dataset.Quota
import DatasetProvisioner.Dataset.Request
import DatasetProvisioner.Event
import DatasetProvisioner.EventQueue
import DatasetProvisioner.Failure
import DatasetProvisioner.Http
import DatasetProvisioner.Json.Draft
import DatasetProvisioner.Json.Reader
import DatasetProvisioner.Json.Scalar
import DatasetProvisioner.Json.Value
import DatasetProvisioner.Json.Writer
import DatasetProvisioner.Management.Client
import DatasetProvisioner.Manifest.Claim
import DatasetProvisioner.Manifest.Metadata
import DatasetProvisioner.Manifest.Shape
import DatasetProvisioner.Manifest.Volume
import DatasetProvisioner.Metrics
import DatasetProvisioner.NameTemplate
import DatasetProvisioner.Program
import DatasetProvisioner.Proofs.Appliance
import DatasetProvisioner.Proofs.Attempts
import DatasetProvisioner.Proofs.Authority
import DatasetProvisioner.Proofs.Calendar
import DatasetProvisioner.Proofs.Capacity
import DatasetProvisioner.Proofs.ClaimEffects
import DatasetProvisioner.Proofs.ClaimRuns
import DatasetProvisioner.Proofs.Classes
import DatasetProvisioner.Proofs.CloneGate
import DatasetProvisioner.Proofs.CloneIsolation
import DatasetProvisioner.Proofs.CloneProperties
import DatasetProvisioner.Proofs.CommandText
import DatasetProvisioner.Proofs.ConfiguredClasses
import DatasetProvisioner.Proofs.Confinement
import DatasetProvisioner.Proofs.Coordinates
import DatasetProvisioner.Proofs.Copies
import DatasetProvisioner.Proofs.Counters
import DatasetProvisioner.Proofs.CreationPlans
import DatasetProvisioner.Proofs.Deliveries
import DatasetProvisioner.Proofs.Denylist
import DatasetProvisioner.Proofs.Digits
import DatasetProvisioner.Proofs.Effects
import DatasetProvisioner.Proofs.Factorisation
import DatasetProvisioner.Proofs.FailedReclaim
import DatasetProvisioner.Proofs.ForgedMarks
import DatasetProvisioner.Proofs.FreshDatasets
import DatasetProvisioner.Proofs.Identifiers
import DatasetProvisioner.Proofs.Interleaving
import DatasetProvisioner.Proofs.Leftovers
import DatasetProvisioner.Proofs.Lifecycles
import DatasetProvisioner.Proofs.Lookup
import DatasetProvisioner.Proofs.NormalRoots
import DatasetProvisioner.Proofs.Ownership
import DatasetProvisioner.Proofs.Pairing
import DatasetProvisioner.Proofs.PeerRuns
import DatasetProvisioner.Proofs.Places
import DatasetProvisioner.Proofs.QuantityBytes
import DatasetProvisioner.Proofs.QuantityText
import DatasetProvisioner.Proofs.Redelivery
import DatasetProvisioner.Proofs.References
import DatasetProvisioner.Proofs.ReleaseMarks
import DatasetProvisioner.Proofs.Removals
import DatasetProvisioner.Proofs.RequestBodies
import DatasetProvisioner.Proofs.Requests
import DatasetProvisioner.Proofs.RestRuns
import DatasetProvisioner.Proofs.Runs
import DatasetProvisioner.Proofs.Sample
import DatasetProvisioner.Proofs.Schedules
import DatasetProvisioner.Proofs.Scopes
import DatasetProvisioner.Proofs.SharedExports
import DatasetProvisioner.Proofs.ShellRuns
import DatasetProvisioner.Proofs.ShellWords
import DatasetProvisioner.Proofs.SnapshotNames
import DatasetProvisioner.Proofs.StaleNotices
import DatasetProvisioner.Proofs.Stamps
import DatasetProvisioner.Proofs.StorageHost
import DatasetProvisioner.Proofs.Templates
import DatasetProvisioner.Proofs.Trace
import DatasetProvisioner.Proofs.Translation
import DatasetProvisioner.Proofs.VolumeRuns
import DatasetProvisioner.Proofs.WakeUps
import DatasetProvisioner.Proofs.WorkingSet
import DatasetProvisioner.Quantity
import DatasetProvisioner.ReclaimPolicy
import DatasetProvisioner.Reconciler.Call
import DatasetProvisioner.Reconciler.Claims
import DatasetProvisioner.Reconciler.Volumes
import DatasetProvisioner.Registry
import DatasetProvisioner.Shell.Command
import DatasetProvisioner.Shell.Connection
import DatasetProvisioner.Shell.Session
import DatasetProvisioner.Simulation.Files
import DatasetProvisioner.Simulation.Journal
import DatasetProvisioner.Simulation.Peers
import DatasetProvisioner.Simulation.Schedule
import DatasetProvisioner.Simulation.Script
import DatasetProvisioner.Simulation.Server
import DatasetProvisioner.Simulation.ShellClient
import DatasetProvisioner.Storage.Backend
import DatasetProvisioner.Storage.Call
import DatasetProvisioner.Storage.Placement
import DatasetProvisioner.Storage.RestBackend
import DatasetProvisioner.Storage.ShellBackend
import DatasetProvisioner.Text.Basic
import DatasetProvisioner.Text.Basic
import DatasetProvisioner.Text.Bytes
import DatasetProvisioner.Text.Lowercase
import DatasetProvisioner.Text.Numeral
import DatasetProvisioner.Text.Quoted
import DatasetProvisioner.Timestamp
import DatasetProvisioner.Timestamp.Interchange
import DatasetProvisioner.Uuid
import DatasetProvisioner.Yaml.Cursor
import DatasetProvisioner.Yaml.Node
import DatasetProvisioner.Yaml.Scalar
import DatasetProvisioner.Yaml.Token
