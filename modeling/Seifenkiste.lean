import Seifenkiste.Library.LittleEndian
import Seifenkiste.Library.Memory
import Seifenkiste.Library.PrefixCode
import Seifenkiste.Library.Framing
import Seifenkiste.Library.Transition
import Seifenkiste.Library.Interleaving
import Seifenkiste.Library.Heap
import Seifenkiste.Library.Wraparound
import Seifenkiste.Defs
import Seifenkiste.Timestamp
import Seifenkiste.Message.Basic
import Seifenkiste.Message.Header
import Seifenkiste.Message.Frame
import Seifenkiste.Message.Ownership
import Seifenkiste.Client.Basic
import Seifenkiste.Client.Send
import Seifenkiste.Client.Camera
import Seifenkiste.Server.Program
import Seifenkiste.Server.Machine
import Seifenkiste.Server.Trace
import Seifenkiste.Server.Protocol
import Seifenkiste.Server.Acknowledgement
import Seifenkiste.Server.Alignment
import Seifenkiste.Server.EndOfStream
import Seifenkiste.Server.Display
import Seifenkiste.Server.Manager
import Seifenkiste.Server.ProcessMemory
import Seifenkiste.Message.Received
import Seifenkiste.Message.Decoders
import Seifenkiste.Message.Params
import Seifenkiste.Queue
import Seifenkiste.Server.BodyRead
import Seifenkiste.System.ImageTrip
import Seifenkiste.System.CaptureOrder
import Seifenkiste.System.TestImage
import Seifenkiste.System.CameraRun
import Seifenkiste.System.CameraMemory
import Seifenkiste.System.FlowControl
import Seifenkiste.System.CameraHeap
import Seifenkiste.System.TimerProgram
import Seifenkiste.System.Descriptors
import Seifenkiste.Client.State
import Seifenkiste.System.FlowControl
