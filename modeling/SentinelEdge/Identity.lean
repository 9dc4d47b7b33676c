import Mathlib.Data.List.TakeWhile
import SentinelEdge.Config
import SentinelEdge.Library.CString
import SentinelEdge.Mqtt.Format

/-!
# Who the device is

What `src/net.cpp` tells the MQTT client about itself before the first connection: the names
that `buildIdentity` makes of the address of the radio, the settings that `configureBroker`
leaves in the client, and the arguments of the one call of `publish`.

The buffers are of fixed size and `snprintf` cuts what does not fit. Nothing is cut except
the address itself (`SentinelEdge.clientId_eq`, `SentinelEdge.telemetryTopic_eq`), so two
devices with different addresses have different names and different topics
(`SentinelEdge.buildIdentity_inj`). Whatever the address is, the settings and the messages can
be sent (`SentinelEdge.configureBroker_valid`, `SentinelEdge.telemetry_valid`).
-/

namespace SentinelEdge

open Mqtt

/-- `MQTT_KEEPALIVE_S`. -/
def mqttKeepaliveS : UInt16 := 30

/-- `MQTT_TOPIC_PREFIX`. -/
def mqttTopicPrefix : List UInt8 := CString.bytes "sentinel/devices/".toList

/-- The credentials in `secrets.h`, which are string literals. -/
structure Secrets where
  /-- `SECRET_MQTT_USER`. -/
  mqttUser : List UInt8
  /-- `SECRET_MQTT_PASSWORD`. -/
  mqttPassword : List UInt8
  user_sendable : Sendable mqttUser
  password_sendable : Sendable mqttPassword

/-- The strings in the static buffers of `src/net.cpp`. -/
structure Identity where
  /-- `deviceId`. -/
  deviceId : List UInt8
  /-- `clientId`. -/
  clientId : List UInt8
  /-- `telemetryTopic`. -/
  telemetryTopic : List UInt8

/-- The string that `snprintf` leaves in a buffer of `size` bytes. -/
def snprintf (size : ℕ) (text : List UInt8) : List UInt8 := text.take (size - 1)

/-- `buildIdentity`, with the memory that `mac.c_str()` points to. -/
def buildIdentity (mac : List UInt8) : Identity :=
  -- `%s` ends at the first `NUL`
  let deviceId := snprintf 18 (mac.takeWhile (· ≠ 0))
  { deviceId := deviceId
    clientId := snprintf 32 (CString.bytes "esp32c3-".toList ++ deviceId)
    telemetryTopic :=
      snprintf 64 (mqttTopicPrefix ++ deviceId ++ CString.bytes "/telemetry".toList) }

/-- `configureBroker`, as far as the server sees it. -/
def configureBroker (id : Identity) (secrets : Secrets) : Settings :=
  let settings : Settings := { clientId := id.clientId, keepAlive := mqttKeepaliveS }
  if strlen secrets.mqttUser > 0 then
    { settings with
      username := some secrets.mqttUser
      password := some secrets.mqttPassword }
  else settings

/-- What `netPublishTelemetry` passes to `publish`, with the memory that `payload` points to. -/
def telemetry (cfg : Tunables) (id : Identity) (payload : List UInt8) : Message where
  topic := id.telemetryTopic
  qos := cfg.mqttQos
  retain := false
  payload := some payload

/-! ### The names -/

variable {mac mac' : List UInt8}

theorem snprintf_of_lt {size : ℕ} {text : List UInt8} (h : text.length < size) :
    snprintf size text = text := List.take_of_length_le (Nat.le_sub_one_of_lt h)

theorem length_deviceId_le (mac : List UInt8) : (buildIdentity mac).deviceId.length ≤ 17 :=
  List.length_take_le _ _

theorem zero_notMem_deviceId (mac : List UInt8) : 0 ∉ (buildIdentity mac).deviceId := by
  intro h
  have hmem : (0 : UInt8) ∈ mac.takeWhile (· ≠ 0) := List.mem_of_mem_take h
  simpa using List.mem_takeWhile_imp hmem

/-- An address of the usual length is the name of the device. -/
theorem deviceId_eq (hnul : 0 ∉ mac) (hlen : mac.length ≤ 17) :
    (buildIdentity mac).deviceId = mac := by
  have hall : ∀ b ∈ mac, decide (b ≠ 0) = true := fun b hb =>
    decide_eq_true fun h0 => hnul (h0 ▸ hb)
  show snprintf 18 (mac.takeWhile (· ≠ 0)) = mac
  rw [List.takeWhile_eq_self_iff.mpr hall]
  exact snprintf_of_lt (Nat.lt_succ_of_le hlen)

/-- **The name of the client is not cut.** -/
theorem clientId_eq (mac : List UInt8) :
    (buildIdentity mac).clientId =
      CString.bytes "esp32c3-".toList ++ (buildIdentity mac).deviceId := by
  have hlen := length_deviceId_le mac
  refine snprintf_of_lt ?_
  rw [List.length_append, CString.length_bytes]
  show 8 + (buildIdentity mac).deviceId.length < 32
  omega

/-- **The topic is not cut.** -/
theorem telemetryTopic_eq (mac : List UInt8) :
    (buildIdentity mac).telemetryTopic =
      mqttTopicPrefix ++ (buildIdentity mac).deviceId ++ CString.bytes "/telemetry".toList := by
  have hlen := length_deviceId_le mac
  refine snprintf_of_lt ?_
  rw [List.length_append, List.length_append, mqttTopicPrefix, CString.length_bytes,
    CString.length_bytes]
  show 17 + (buildIdentity mac).deviceId.length + 10 < 64
  omega

/-- **Different devices have different names**, and publish on different topics. -/
theorem buildIdentity_inj (hnul : 0 ∉ mac) (hlen : mac.length ≤ 17) (hnul' : 0 ∉ mac')
    (hlen' : mac'.length ≤ 17)
    (h : (buildIdentity mac).clientId = (buildIdentity mac').clientId ∨
      (buildIdentity mac).telemetryTopic = (buildIdentity mac').telemetryTopic) : mac = mac' := by
  rw [← deviceId_eq hnul hlen, ← deviceId_eq hnul' hlen']
  rcases h with h | h
  · rw [clientId_eq, clientId_eq] at h
    exact List.append_cancel_left h
  · rw [telemetryTopic_eq, telemetryTopic_eq] at h
    exact List.append_cancel_left (List.append_cancel_right h)

/-! ### What can be sent -/

/-- A name with the device in it can be sent. -/
theorem sendable_around {front behind : List UInt8} (hfront : Sendable front)
    (hbehind : Sendable behind) (hlen : front.length + 17 + behind.length < 2 ^ 16)
    (mac : List UInt8) : Sendable (front ++ (buildIdentity mac).deviceId ++ behind) where
  noNul := by
    simp only [List.mem_append, not_or]
    exact ⟨⟨hfront.noNul, zero_notMem_deviceId mac⟩, hbehind.noNul⟩
  short := by
    have hdevice := length_deviceId_le mac
    rw [List.length_append, List.length_append]
    omega

theorem telemetryTopic_sendable (mac : List UInt8) :
    Sendable (buildIdentity mac).telemetryTopic := by
  rw [telemetryTopic_eq]
  exact sendable_around ⟨by decide, by decide⟩ ⟨by decide, by decide⟩ (by decide) mac

theorem clientId_sendable (mac : List UInt8) : Sendable (buildIdentity mac).clientId := by
  rw [clientId_eq, ← List.append_nil (_ ++ _)]
  exact sendable_around ⟨by decide, by decide⟩ ⟨by decide, by decide⟩ (by decide) mac

/-- **The settings can be sent.** -/
theorem configureBroker_valid (mac : List UInt8) (secrets : Secrets) :
    (configureBroker (buildIdentity mac) secrets).Valid := by
  have hclient := clientId_sendable mac
  rw [configureBroker]
  split
  · refine ⟨hclient, ?_, ?_, nofun, fun _ => rfl⟩
    · rintro u ⟨⟩
      exact secrets.user_sendable
    · rintro p ⟨⟩
      exact secrets.password_sendable
  · exact ⟨hclient, nofun, nofun, nofun, nofun⟩

/-- What the payload of a message is. -/
theorem content_telemetry (cfg : Tunables) (id : Identity) (payload : List UInt8) :
    (telemetry cfg id payload).content = payload.takeWhile (· ≠ 0) := rfl

/-- **A message can be sent**, if the payload is not too long. -/
theorem telemetry_valid {cfg : Tunables} {payload : List UInt8} (hqos : cfg.mqttQos ≤ 2)
    (hshort : (payload.takeWhile (· ≠ 0)).length < 2 ^ 27) (mac : List UInt8) :
    (telemetry cfg (buildIdentity mac) payload).Valid where
  topic := telemetryTopic_sendable mac
  qos := by
    have hqos : cfg.mqttQos.toNat ≤ 2 := hqos
    have hcases : cfg.mqttQos.toNat = 0 ∨ cfg.mqttQos.toNat = 1 ∨ cfg.mqttQos.toNat = 2 := by omega
    exact hcases.imp UInt8.toNat_inj.mp (Or.imp UInt8.toNat_inj.mp UInt8.toNat_inj.mp)
  backed := Nat.zero_le _
  short := by
    have htopic := (telemetryTopic_sendable mac).short
    show 4 + (buildIdentity mac).telemetryTopic.length + (payload.takeWhile (· ≠ 0)).length < 2 ^ 28
    omega

end SentinelEdge
