import SentinelEdge.Library.Run
import SentinelEdge.Library.WrapClock
import SentinelEdge.Backoff
import SentinelEdge.Watchdog
import SentinelEdge.Preemption
import SentinelEdge.Net
import SentinelEdge.Net.Ownership
import SentinelEdge.Net.Bounce
import SentinelEdge.Net.WifiRetry
import SentinelEdge.Net.Streak
import SentinelEdge.Net.BounceFirst
import SentinelEdge.Library.Binary32
import SentinelEdge.Library.CString
import SentinelEdge.Library.FlatJson
import SentinelEdge.Sensors
import SentinelEdge.Display
import SentinelEdge.Publish
import SentinelEdge.Station
import SentinelEdge.Device
import SentinelEdge.Device.Interval
import SentinelEdge.Device.Cadence
import SentinelEdge.Device.Layers
import SentinelEdge.Library.VarInt
import SentinelEdge.Library.Framing
import SentinelEdge.Library.Once
import SentinelEdge.Mqtt.Packet
import SentinelEdge.Mqtt.Format
import SentinelEdge.Mqtt.Queue
import SentinelEdge.Mqtt.Parser
import SentinelEdge.Mqtt.Client
import SentinelEdge.Mqtt.Line
import SentinelEdge.Mqtt.Session
import SentinelEdge.Mqtt.Feed
import SentinelEdge.Mqtt.Incoming
import SentinelEdge.Mqtt.Delivery
import SentinelEdge.Mqtt.Lifecycle
import SentinelEdge.Mqtt.Order
import SentinelEdge.Mqtt.Faults
import SentinelEdge.Mqtt.KeepAlive
import SentinelEdge.Identity
import SentinelEdge.Gateway
import SentinelEdge.Firmware
import SentinelEdge.Firmware.Broker
import SentinelEdge.Firmware.Stranded
