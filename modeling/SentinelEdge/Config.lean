import Mathlib.Algebra.Group.Nat.Defs
import Mathlib.Data.List.Basic

/-!
# The tunables of the firmware

`include/config.h` collects the compile-time constants of the firmware. The ones
the modelled code reads are the fields of `SentinelEdge.Tunables`, so that what is
proved below is proved for every build; `SentinelEdge.configH` is the build that
the header describes.

Two of the fields are not in the header but come with FreeRTOS, which is not part of
the source: the macro `pdMS_TO_TICKS` and the length of a tick. What is taken for
granted of them is `SentinelEdge.TicksExact`, and is asked for where it is needed.

The relations between constants that the reconnect logic takes for granted – a
base delay that is positive, not above the cap, and a cap far enough below `2 ^ 32`
for one more doubling – are fields as well: a set of tunables without them cannot
be built.

The plausibility bounds of the sensors stand with the sensors, in
`SentinelEdge.Sensors`.
-/

namespace SentinelEdge

/-- The tunables of `include/config.h` that the modelled code reads, with the
C types they have there, and what it reads of FreeRTOS. -/
structure Tunables where
  /-- `PUBLISH_INTERVAL_MS`. -/
  publishIntervalMs : UInt32
  /-- `MQTT_QOS`. -/
  mqttQos : UInt8
  /-- `TELEMETRY_PAYLOAD_MAX`, the size of the payload buffer in bytes. -/
  telemetryPayloadMax : ℕ
  /-- `RECONNECT_BASE_MS`. -/
  reconnectBaseMs : UInt32
  /-- `RECONNECT_MAX_MS`. -/
  reconnectMaxMs : UInt32
  /-- `OFFLINE_REBOOT_MS`. -/
  offlineRebootMs : UInt32
  /-- `MQTT_BOUNCE_WIFI_AFTER_ATTEMPTS`. -/
  mqttBounceWifiAfterAttempts : UInt8
  /-- `pdMS_TO_TICKS`. -/
  pdMsToTicks : UInt32 → UInt32
  /-- `portTICK_PERIOD_MS`: how long a tick lasts, in milliseconds. -/
  portTickPeriodMs : ℕ
  telemetryPayload_pos : 1 ≤ telemetryPayloadMax
  reconnectBase_pos : 0 < reconnectBaseMs.toNat
  reconnectBase_le_max : reconnectBaseMs.toNat ≤ reconnectMaxMs.toNat
  reconnectMax_lt : reconnectMaxMs.toNat < 2 ^ 31

/-- **The conversion is exact up to the cap**: the ticks that `pdMS_TO_TICKS` makes of a
delay that is not above `RECONNECT_MAX_MS` last as long as the delay. -/
def TicksExact (cfg : Tunables) : Prop :=
  ∀ ms : UInt32, ms ≤ cfg.reconnectMaxMs →
    (cfg.pdMsToTicks ms).toNat * cfg.portTickPeriodMs = ms.toNat

/-- The values of `include/config.h`, with the macro of FreeRTOS, which computes in 32 bits,
at the `configTICK_RATE_HZ` of the Arduino core, which is 1000. -/
def configH : Tunables where
  publishIntervalMs := 60000
  mqttQos := 1
  telemetryPayloadMax := 192
  reconnectBaseMs := 2000
  reconnectMaxMs := 60000
  offlineRebootMs := 5 * 60 * 1000
  mqttBounceWifiAfterAttempts := 5
  pdMsToTicks := fun xTimeInMs => xTimeInMs * 1000 / 1000
  portTickPeriodMs := 1
  telemetryPayload_pos := by decide
  reconnectBase_pos := by decide
  reconnectBase_le_max := by decide
  reconnectMax_lt := by decide

/-- At 1000 ticks a second the macro is exact up to a cap of 4294967 milliseconds. -/
theorem ticksExact_of_lt {cfg : Tunables}
    (hexpand : ∀ ms, cfg.pdMsToTicks ms = ms * 1000 / 1000) (htick : cfg.portTickPeriodMs = 1)
    (hcap : cfg.reconnectMaxMs.toNat ≤ 4294967) : TicksExact cfg := by
  intro ms hms
  have hle : ms.toNat ≤ 4294967 := Nat.le_trans (UInt32.le_iff_toNat_le.mp hms) hcap
  have hmul : (ms * 1000).toNat = ms.toNat * 1000 := by
    rw [UInt32.toNat_mul]
    exact Nat.mod_eq_of_lt (by change ms.toNat * 1000 < 2 ^ 32; omega)
  rw [hexpand, htick, UInt32.toNat_div, hmul, Nat.mul_one]
  exact Nat.mul_div_cancel _ (by decide)

theorem ticksExact_configH : TicksExact configH :=
  ticksExact_of_lt (fun _ => rfl) rfl (by decide)

end SentinelEdge
