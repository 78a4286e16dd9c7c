import Dimmit.AccessControl
import Dimmit.Client
import Dimmit.Command
import Dimmit.Daemon
import Dimmit.Ddc.Abstraction
import Dimmit.Ddc.Bench
import Dimmit.Ddc.Builders
import Dimmit.Ddc.Darwin
import Dimmit.Ddc.Darwin.Ddcctl
import Dimmit.Ddc.Darwin.M1ddc
import Dimmit.Ddc.Enumeration
import Dimmit.Ddc.Handles
import Dimmit.Ddc.InMemoryMock
import Dimmit.Ddc.Linux
import Dimmit.Ddc.Linux.Exclusive
import Dimmit.Ddc.Netbsd
import Dimmit.Ddc.Sources
import Dimmit.Ddc.Windows
import Dimmit.Dimmer.Checked
import Dimmit.Dimmer.Fraction
import Dimmit.Dimmer.Screen
import Dimmit.DisplayController.Coalesce
import Dimmit.DisplayController.Controllable
import Dimmit.DisplayController.Direction
import Dimmit.DisplayController.Eager
import Dimmit.DisplayController.Exclusive
import Dimmit.DisplayController.Failure
import Dimmit.DisplayController.Faults
import Dimmit.DisplayController.Flicker
import Dimmit.DisplayController.Gauge
import Dimmit.DisplayController.Hotplug
import Dimmit.DisplayController.Isolation
import Dimmit.DisplayController.Lockstep
import Dimmit.DisplayController.Ownership
import Dimmit.DisplayController.Panels
import Dimmit.DisplayController.Poll
import Dimmit.DisplayController.Presses
import Dimmit.DisplayController.Product
import Dimmit.DisplayController.Range
import Dimmit.DisplayController.Reach
import Dimmit.DisplayController.Registers
import Dimmit.DisplayController.Run
import Dimmit.Input
import Dimmit.Input.Capture
import Dimmit.Input.Darwin
import Dimmit.Input.Windows
import Dimmit.Input.Windows.Stop
import Dimmit.Installer
import Dimmit.Lib.Ledger
import Dimmit.Lib.Rounds
import Dimmit.Lib.Trace
import Dimmit.Process
import Dimmit.Process.Admission
import Dimmit.Process.Calls
import Dimmit.Process.Flicker
import Dimmit.Process.Invocations
import Dimmit.Process.Levels
import Dimmit.Process.Linux
import Dimmit.Process.Netbsd
import Dimmit.Process.Safety
import Dimmit.Process.Shutdown
import Dimmit.Process.Sockets
import Dimmit.Process.Soon
import Dimmit.Process.Writes
