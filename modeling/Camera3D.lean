import Camera3D.Ipc.SlotReuse
import Camera3D.Recon.Polling
import Camera3D.Hub.World
import Camera3D.Hub.Moves
import Camera3D.Hub.Sound
import Camera3D.Hub.Startup
import Camera3D.Hub.InFlight
import Camera3D.Hub.Listing
import Camera3D.Hub.Completion
import Camera3D.Hub.Tags
import Camera3D.Hub.LiveRefs
import Camera3D.Hub.Waiters
import Camera3D.Hub.Collecting
import Camera3D.Hub.Outcome
import Camera3D.Hub.Failure
import Camera3D.Camera.Controls
import Camera3D.Hub.Requests
import Camera3D.Hub.Server
import Camera3D.Hub.FailStop
import Camera3D.Hub.Changes
import Camera3D.Hub.Gate
import Camera3D.Hub.Armed
import Camera3D.Camera.Adapters
import Camera3D.Hub.Restore
import Camera3D.Hub.Labels
import Camera3D.Hub.SerialUse
import Camera3D.Hub.SerialLost
import Camera3D.Hub.DeviceGone
import Camera3D.Serial.Line
import Camera3D.Serial.Reading
import Camera3D.Serial.Pairing
import Camera3D.Discovery.Beacon
import Camera3D.Config.HubFile
import Camera3D.Text.Tokens
import Camera3D.Config.Document
import Camera3D.Config.Loading
import Camera3D.Config.Faithful
import Camera3D.Camera.Galaxy
import Camera3D.Camera.GalaxyProtocol
import Camera3D.Camera.GalaxyThrows
import Camera3D.Hub.GalaxyArmed
import Camera3D.Sdk.Client
import Camera3D.Sdk.Scope
import Camera3D.Ipc.Ranges
import Camera3D.Recon.Watcher
import Camera3D.Viewer.Population
import Camera3D.Consumers.Burst
import Camera3D.Hub.RingCalls
import Camera3D.Recon.Loopback
import Camera3D.Recon.LoopbackSaves
import Camera3D.Recon.Newness
import Camera3D.Recon.SessionLost
import Camera3D.Hub.ReleasedSession
import Camera3D.Sdk.Errors
import Camera3D.Hub.Parameters
import Camera3D.Sdk.ReadBack
import Camera3D.Serial.Passes
import Camera3D.Serial.Recorded
import Camera3D.Hub.ProjectorOp
import Camera3D.Serial.Conserved
import Camera3D.Discovery.Truncation
import Camera3D.Sdk.Discovery
import Camera3D.Transition.Generations
import Camera3D.Viewer.PointCloud
import Camera3D.Viewer.Convergence
import Camera3D.Camera.Quiet
import Camera3D.Hub.Rollback
import Camera3D.Ipc.Attached
import Camera3D.Ipc.LastWrite
import Camera3D.Ipc.Reopening
import Camera3D.Hub.Channels
import Camera3D.Consumers.Layout
import Camera3D.Camera.FailedStart
import Camera3D.Capture.HardTrigger
import Camera3D.Capture.LeftBehind
import Camera3D.Config.Inert
import Camera3D.Config.Sections
import Camera3D.Config.Cut
import Camera3D.Config.FreeText
import Camera3D.Config.Misread
import Camera3D.Config.Spilled
import Camera3D.Memory.Loops
import Camera3D.Viewer.QtImage
import Camera3D.Viewer.Conversion
import Camera3D.Camera.ManagedIds
import Camera3D.Camera.ByValue
import Camera3D.Hub.CaptureService
import Camera3D.Hub.Refines
import Camera3D.Viewer.AsyncCapture
import Camera3D.Viewer.FrameFlow
import Camera3D.Viewer.Lifetimes
import Camera3D.Discovery.Broadcast
import Camera3D.Sdk.Devices
import Camera3D.Viewer.DeviceList
import Camera3D.Hub.FromFile
import Camera3D.Viewer.DepthControls
import Camera3D.Camera.Replay
import Camera3D.Camera.Threads
import Camera3D.Consumers.BurstFiles
import Camera3D.Arith.Binary64
import Camera3D.Viewer.DeviceParameters
import Camera3D.Consumers.Delivered
