import CanGuru.Lib.Machine
import CanGuru.Lib.ListHead
import CanGuru.Lib.Packed
import CanGuru.Lib.Calls
import CanGuru.Lib.Slots
import CanGuru.Lib.Memory
import CanGuru.Lib.ListWalk
import CanGuru.Lib.ListRace
import CanGuru.Lib.Replica
import CanGuru.Lib.BufferPool
import CanGuru.Kernel
import CanGuru.GuruDevice
import CanGuru.Net
import CanGuru.CanguruNet
import CanGuru.LinguruNet
import CanGuru.Channel
import CanGuru.Driver
import CanGuru.Boot
import CanGuru.Usb
import CanGuru.Device
import CanGuru.Voltage
import CanGuru.Receive.VoltageLag
import CanGuru.Boot.Minors
import CanGuru.Boot.Nodes
import CanGuru.Boot.Race
import CanGuru.Boot.Files
import CanGuru.Transmit.Attribution
import CanGuru.Transmit.Completion
import CanGuru.Transmit.Relink
import CanGuru.Transmit.ReplyRace
import CanGuru.Transmit.Serial
import CanGuru.Transmit.Close
import CanGuru.Transmit.ByteQueue
import CanGuru.Transmit.Sequential
import CanGuru.Transmit.Buffers
import CanGuru.Transmit.EchoFailure
import CanGuru.Transmit.Custody
import CanGuru.Transmit.Loss
import CanGuru.Receive.LinCopy
import CanGuru.Receive.Defined
import CanGuru.Receive.RoundTrip
import CanGuru.Receive.LinRoundTrip
import CanGuru.Receive.Stale
import CanGuru.Receive.Delivery
import CanGuru.Receive.Isolation
import CanGuru.Receive.Acceptance
import CanGuru.Receive.Validity
import CanGuru.Receive.TimeStamps
import CanGuru.Receive.FwVersion
import CanGuru.Receive.Transfer
import CanGuru.Receive.Registration
import CanGuru.Receive.RxPool
import CanGuru.Transmit.Lengths
import CanGuru.Link.Frames
import CanGuru.Link.EndToEnd
import CanGuru.Link.Mirror
import CanGuru.Lifecycle.Rules
import CanGuru.Lifecycle.FailedProbe
import CanGuru.Lifecycle.Run
import CanGuru.Lifecycle.Disconnect
import CanGuru.Lifecycle.Partial
import CanGuru.Lifecycle.Configuration
import CanGuru.Lifecycle.Opening
import CanGuru.Lifecycle.BitTiming
import CanGuru.Lifecycle.EarlyUse
import CanGuru.Lifecycle.Freed
import CanGuru.Lifecycle.Module
