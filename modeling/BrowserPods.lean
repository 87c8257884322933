import BrowserPods.Artifact.Archived
import BrowserPods.Artifact.Basic
import BrowserPods.Artifact.Stored
import BrowserPods.BrowserPod.Build
import BrowserPods.BrowserPod.WorkDir
import BrowserPods.Client.Basic
import BrowserPods.Client.Copying
import BrowserPods.Client.Lifecycle
import BrowserPods.Client.Registration
import BrowserPods.Cluster.Access
import BrowserPods.Cluster.Basic
import BrowserPods.Cluster.Deletion
import BrowserPods.Cluster.Error
import BrowserPods.CommandLine.Basic
import BrowserPods.CommandLine.Scan
import BrowserPods.Config.Basic
import BrowserPods.Config.FolderMounts
import BrowserPods.Config.NodeSelector
import BrowserPods.Config.Tolerations
import BrowserPods.Controller.BrowserRequest
import BrowserPods.Controller.CreationStatus
import BrowserPods.Controller.Registration
import BrowserPods.Dict
import BrowserPods.Exec.Collection
import BrowserPods.Exec.Frames
import BrowserPods.Exec.Running
import BrowserPods.Exec.Session
import BrowserPods.Exec.Transfer
import BrowserPods.Failure
import BrowserPods.Files.Path
import BrowserPods.Files.Tree
import BrowserPods.Json.Fields
import BrowserPods.Json.Reader
import BrowserPods.Json.Value
import BrowserPods.Main
import BrowserPods.Pod.Basic
import BrowserPods.Pod.Placement
import BrowserPods.Pod.Schema
import BrowserPods.Pod.Schema.Unread
import BrowserPods.Pod.Schema.Volume
import BrowserPods.Pod.State
import BrowserPods.Pod.Timestamp
import BrowserPods.Pod.Volume
import BrowserPods.Program
import BrowserPods.Settings
import BrowserPods.Tar.Archive
import BrowserPods.Tar.Attributes
import BrowserPods.Tar.Field
import BrowserPods.Tar.Header
import BrowserPods.Tar.Source
import BrowserPods.Tar.Sparse
import BrowserPods.Text.Blank
import BrowserPods.Text.CombiningClass
import BrowserPods.Text.Composed
import BrowserPods.Text.Composite
import BrowserPods.Text.Direction
import BrowserPods.Text.Joining
import BrowserPods.Text.Mark
import BrowserPods.Text.Numeral
import BrowserPods.Text.Port
import BrowserPods.Text.Runs
import BrowserPods.Text.Utf8
import BrowserPods.Url.Basic
import BrowserPods.Url.Domain
import BrowserPods.Url.Host
import BrowserPods.Url.Ipv4
import BrowserPods.Url.Ipv6
import BrowserPods.Url.Label
import BrowserPods.Url.Mapping
import BrowserPods.Url.Percent
import BrowserPods.Url.Punycode
import BrowserPods.Url.Reader
import BrowserPods.Yaml.Cursor
import BrowserPods.Yaml.Node
import BrowserPods.Yaml.Plain
import BrowserPods.Yaml.Scalar
import BrowserPods.Yaml.Token
import BrowserPods.Yaml.Typed
import BrowserPods.Proofs.Files.Components
import BrowserPods.Proofs.Files.Walk
import BrowserPods.Proofs.Files.Growth
import BrowserPods.Proofs.Artifact.Containment
import BrowserPods.Proofs.BrowserPod.Acceptance
import BrowserPods.Proofs.Client.Sweeping
import BrowserPods.Proofs.Client.Ownership
import BrowserPods.Proofs.Exec.Session
import BrowserPods.Proofs.Exec.Gate
import BrowserPods.Proofs.Exec.Streams
import BrowserPods.Proofs.Exec.Transfer
import BrowserPods.Proofs.Client.Copying
import BrowserPods.Proofs.Text.Utf8
import BrowserPods.Proofs.Files.Written
import BrowserPods.Proofs.Files.Folder
import BrowserPods.Proofs.Exec.Protocol
import BrowserPods.Proofs.Client.SharedDir
import BrowserPods.Proofs.Client.Absence
import BrowserPods.Proofs.Artifact.Agreement
import BrowserPods.Proofs.Client.Departure
import BrowserPods.Proofs.Client.MissingDir
import BrowserPods.Proofs.Artifact.Links
import BrowserPods.Proofs.Config.FolderMounts
import BrowserPods.Proofs.Text.Blank
import BrowserPods.Proofs.Config.NodeSelector
import BrowserPods.Proofs.Config.Overrides
import BrowserPods.Proofs.Client.Defaults
import BrowserPods.Proofs.BrowserPod.Inheritance
import BrowserPods.Proofs.Files.Creation
import BrowserPods.Proofs.BrowserPod.Isolation
import BrowserPods.Proofs.Text.Numeral
import BrowserPods.Proofs.Json.ReadBack
import BrowserPods.Proofs.Controller.Records
import BrowserPods.Proofs.Text.Lossy
import BrowserPods.Proofs.Files.Shown
import BrowserPods.Proofs.Artifact.Stripping
import BrowserPods.Proofs.Tar.Steps
import BrowserPods.Proofs.Tar.Cutting
import BrowserPods.Proofs.Artifact.Truncation
import BrowserPods.Proofs.Tar.Writing
import BrowserPods.Proofs.Tar.RoundTrip
import BrowserPods.Proofs.Artifact.Restoration
import BrowserPods.Proofs.Artifact.Saving
import BrowserPods.Proofs.Artifact.Stopping
import BrowserPods.Proofs.Artifact.Listing
import BrowserPods.Proofs.Exec.Collection
import BrowserPods.Proofs.Client.Results
import BrowserPods.Proofs.Text.Port
import BrowserPods.Proofs.Url.Host
import BrowserPods.Proofs.Config.SelectorGrammar
import BrowserPods.Proofs.Config.MountSearch
import BrowserPods.Proofs.Files.Spelling
import BrowserPods.Proofs.Config.ProtectedPlaces
