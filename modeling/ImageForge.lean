import ImageForge.Address.Socket
import ImageForge.Address.Target
import ImageForge.Cluster.Body
import ImageForge.Cluster.Error
import ImageForge.Cluster.Http
import ImageForge.Cluster.Request
import ImageForge.Cluster.Store
import ImageForge.Cluster.Table
import ImageForge.Controller.Backoff
import ImageForge.Controller.BuilderJob
import ImageForge.Controller.Config
import ImageForge.Controller.Error
import ImageForge.Controller.JobState
import ImageForge.Controller.Naming
import ImageForge.Controller.Operator
import ImageForge.Controller.Output
import ImageForge.Controller.Probe
import ImageForge.Controller.Projection
import ImageForge.Controller.Reconcile
import ImageForge.Controller.Retry
import ImageForge.Controller.Schedule
import ImageForge.Controller.Startup
import ImageForge.Controller.Subscription
import ImageForge.Controller.Watch
import ImageForge.Execution.Outcome
import ImageForge.Execution.Signal
import ImageForge.Execution.Start
import ImageForge.Hash.Sha256
import ImageForge.Json.Basic
import ImageForge.Json.Decode
import ImageForge.Json.Equality
import ImageForge.Json.Lexer
import ImageForge.Json.MergePatch
import ImageForge.Json.Pointer
import ImageForge.Json.Reader
import ImageForge.Json.Shape
import ImageForge.Json.Writer
import ImageForge.Json.Written
import ImageForge.Log
import ImageForge.Log.Filter
import ImageForge.Main
import ImageForge.Number.Binary64
import ImageForge.Number.Shortest
import ImageForge.Proofs.Cluster.Answer
import ImageForge.Proofs.Cluster.Departure
import ImageForge.Proofs.Cluster.FinalizerPatch
import ImageForge.Proofs.Cluster.History
import ImageForge.Proofs.Cluster.Lineage
import ImageForge.Proofs.Cluster.Running
import ImageForge.Proofs.Cluster.Table
import ImageForge.Proofs.Cluster.Turns
import ImageForge.Proofs.Cluster.Versions
import ImageForge.Proofs.Configuration.Acceptance
import ImageForge.Proofs.Configuration.Numeral
import ImageForge.Proofs.Job.Requirements
import ImageForge.Proofs.Json.Fields
import ImageForge.Proofs.Json.Layout
import ImageForge.Proofs.Json.NormalForm
import ImageForge.Proofs.Json.Rendering
import ImageForge.Proofs.Naming.LabelValue
import ImageForge.Proofs.Naming.Sharing
import ImageForge.Proofs.Naming.Subdomain
import ImageForge.Proofs.Outcome
import ImageForge.Proofs.Reconcile.Adoption
import ImageForge.Proofs.Reconcile.Aging
import ImageForge.Proofs.Reconcile.Blame
import ImageForge.Proofs.Reconcile.Bystanders
import ImageForge.Proofs.Reconcile.Consistency
import ImageForge.Proofs.Reconcile.Construction
import ImageForge.Proofs.Reconcile.Convergence
import ImageForge.Proofs.Reconcile.Creation
import ImageForge.Proofs.Reconcile.Deletion
import ImageForge.Proofs.Reconcile.Effects
import ImageForge.Proofs.Reconcile.Failure
import ImageForge.Proofs.Reconcile.Foretelling
import ImageForge.Proofs.Reconcile.Independence
import ImageForge.Proofs.Reconcile.Interleaving
import ImageForge.Proofs.Reconcile.Observation
import ImageForge.Proofs.Reconcile.Ownership
import ImageForge.Proofs.Reconcile.Parking
import ImageForge.Proofs.Reconcile.Recording
import ImageForge.Proofs.Reconcile.Release
import ImageForge.Proofs.Reconcile.Replacement
import ImageForge.Proofs.Reconcile.Rerun
import ImageForge.Proofs.Reconcile.Rest
import ImageForge.Proofs.Reconcile.SingleChange
import ImageForge.Proofs.Reconcile.Stage
import ImageForge.Proofs.Reconcile.StatusHistory
import ImageForge.Proofs.Reconcile.Story
import ImageForge.Proofs.Reconcile.Takeover
import ImageForge.Proofs.Reconcile.ValidTimes
import ImageForge.Proofs.Reconcile.Wakeup
import ImageForge.Proofs.Resource.ConditionHistory
import ImageForge.Proofs.Resource.Conditions
import ImageForge.Proofs.Resource.Metadata
import ImageForge.Proofs.Resource.MetadataPatch
import ImageForge.Proofs.Resource.Reports
import ImageForge.Proofs.Resource.StatusPatch
import ImageForge.Proofs.Resource.WireForm
import ImageForge.Proofs.Retry.Delays
import ImageForge.Proofs.Retry.Growth
import ImageForge.Proofs.Retry.Watching
import ImageForge.Proofs.Text.Lines
import ImageForge.Proofs.Text.Path
import ImageForge.Proofs.Text.Trimming
import ImageForge.Proofs.Time.Calendar
import ImageForge.Proofs.Time.Reading
import ImageForge.Proofs.Worker.Acceptance
import ImageForge.Proofs.Worker.Capture
import ImageForge.Proofs.Worker.Confinement
import ImageForge.Proofs.Worker.Contract
import ImageForge.Proofs.Worker.Delivery
import ImageForge.Proofs.Worker.InputPaths
import ImageForge.Proofs.Worker.Location
import ImageForge.Proofs.Worker.Order
import ImageForge.Proofs.Worker.Pod
import ImageForge.Proofs.Worker.PrintedName
import ImageForge.Proofs.Worker.Sequence
import ImageForge.Regular.Bracket
import ImageForge.Regular.Escape
import ImageForge.Regular.Expression
import ImageForge.Resource.Choice
import ImageForge.Resource.Condition
import ImageForge.Resource.ImageBuild
import ImageForge.Resource.Job
import ImageForge.Resource.JobDocument
import ImageForge.Resource.Metadata
import ImageForge.Resource.Shape.Container
import ImageForge.Resource.Shape.ImageBuild
import ImageForge.Resource.Shape.Job
import ImageForge.Resource.Shape.Metadata
import ImageForge.Resource.Shape.Pod
import ImageForge.Resource.Shape.Volume
import ImageForge.Resource.Spec
import ImageForge.Resource.SpecDocument
import ImageForge.Resource.Status
import ImageForge.Schema.Basic
import ImageForge.Schema.Definition
import ImageForge.Schema.Spec
import ImageForge.Shell.Arithmetic
import ImageForge.Shell.Builtin
import ImageForge.Shell.Builtin.Basic
import ImageForge.Shell.Builtin.Reading
import ImageForge.Shell.Builtin.Signals
import ImageForge.Shell.Builtin.Variables
import ImageForge.Shell.Condition
import ImageForge.Shell.Expansion
import ImageForge.Shell.Field
import ImageForge.Shell.FileTree
import ImageForge.Shell.Files
import ImageForge.Shell.Format
import ImageForge.Shell.Interpreter
import ImageForge.Shell.LineTool
import ImageForge.Shell.Pattern
import ImageForge.Shell.Process
import ImageForge.Shell.Program
import ImageForge.Shell.Reader
import ImageForge.Shell.Redirection
import ImageForge.Shell.Session
import ImageForge.Shell.SignalName
import ImageForge.Shell.Source
import ImageForge.Shell.Syntax
import ImageForge.Shell.Token
import ImageForge.Shell.TokenReader
import ImageForge.Shell.Tool
import ImageForge.Shell.WordReader
import ImageForge.Text.Alphabetic
import ImageForge.Text.Blank
import ImageForge.Text.Pieces
import ImageForge.Text.Quoted
import ImageForge.Text.Unprintable
import ImageForge.Text.Utf8
import ImageForge.Time.Calendar
import ImageForge.Time.Instant
import ImageForge.Time.Reader
import ImageForge.Worker.Build
import ImageForge.Worker.Command
import ImageForge.Worker.Contract
import ImageForge.Worker.Environment
import ImageForge.Worker.Procedure
