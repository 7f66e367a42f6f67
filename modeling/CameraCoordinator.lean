import CameraCoordinator.Lib.Bytes
import CameraCoordinator.Lib.GoMap
import CameraCoordinator.Lib.BoundedMap
import CameraCoordinator.Lib.Mealy
import CameraCoordinator.Lib.Edge
import CameraCoordinator.Lib.Chan
import CameraCoordinator.Lib.Fan
import CameraCoordinator.Lib.Interleave
import CameraCoordinator.Lib.Filepath
import CameraCoordinator.Lib.Runs
import CameraCoordinator.Lib.Mutex
import CameraCoordinator.Event
import CameraCoordinator.Bpf.Probes
import CameraCoordinator.Bpf.Guard
import CameraCoordinator.Bpf.Dropped
import CameraCoordinator.Bpf.Recovery
import CameraCoordinator.Bpf.Atomic
import CameraCoordinator.Bpf.Serial
import CameraCoordinator.Detector.ReadLoop
import CameraCoordinator.Detector.Goroutines
import CameraCoordinator.Discoverer.Devices
import CameraCoordinator.Coordinator.Run
import CameraCoordinator.Coordinator.Level
import CameraCoordinator.Coordinator.LostOff
import CameraCoordinator.Coordinator.FanOut
import CameraCoordinator.Coordinator.Cancel
import CameraCoordinator.Coordinator.Order
import CameraCoordinator.Pipeline.Records
import CameraCoordinator.Pipeline.Layout
import CameraCoordinator.Pipeline.Agree
import CameraCoordinator.Pipeline.Last
import CameraCoordinator.Pipeline.Orphaned
import CameraCoordinator.Pipeline.Feedback
import CameraCoordinator.Pipeline.Independent
import CameraCoordinator.Main.System
import CameraCoordinator.Main.Shutdown
import CameraCoordinator.Main.DeadNotifier
import CameraCoordinator.Main.Progress
import CameraCoordinator.Main.Delivery
import CameraCoordinator.Notifier.Dbus
import CameraCoordinator.Notifier.Script
import CameraCoordinator.Notifier.Started
import CameraCoordinator.Notifier.Handlers
import CameraCoordinator.Autolight.App
import CameraCoordinator.Autolight.Ui
import CameraCoordinator.Autolight.Lights
import CameraCoordinator.Autolight.Undisturbed
import CameraCoordinator.Autolight.Mirror
import CameraCoordinator.Autolight.Locked
import CameraCoordinator.EndToEnd.System
import CameraCoordinator.EndToEnd.Settled
import CameraCoordinator.EndToEnd.Causes
import CameraCoordinator.EndToEnd.Arrival
import CameraCoordinator.EndToEnd.Lights
import CameraCoordinator.EndToEnd.Restart
import CameraCoordinator.EndToEnd.Scripts
