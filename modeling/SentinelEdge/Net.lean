import SentinelEdge.Backoff
import SentinelEdge.Watchdog

/-!
# The Wi-Fi and MQTT lifecycle

`src/net.cpp` is a handful of event handlers over a few variables: two retry
timers, two counters of attempts, the state of the MQTT client and the stamp of
the watchdog. Nothing in it waits. This file is that code, handler by handler,
and the world that calls it.

The world is the platform: a Wi-Fi link that comes and goes, the queue of Wi-Fi
events not yet delivered to `onWifiEvent`, the two timers, and an MQTT client that
connects, drops, and reports a drop *later*, through `onMqttDisconnect`.
`SentinelEdge.Net.step` lets it act in any order. The assumptions on the platform
are these, and no others.

* A link change sets `WiFi.status()` and enqueues the matching event, whether or
  not the link was in that state before; it may end a `WiFi.begin` that is under
  way (`SentinelEdge.Net.linkChange`).
* `WiFi.disconnect(true)` on a live link takes it down and enqueues
  `STA_DISCONNECTED` (`SentinelEdge.Net.wifiDisconnect`).
* `mqttClient.connect()` is ignored unless the client is disconnected, as its
  source says (`SentinelEdge.ClientState.connect`).
* Timer commands succeed, and a period is counted in ticks. In the step function a
  timer may expire at any moment while it is armed; that it expires on time is the
  condition `SentinelEdge.Net.OnTime`, for the results that are about time.

What each step can do is said once, by the inductive `SentinelEdge.Net.Step`, and
every invariant of the following files is proved by cases on it.
-/

namespace SentinelEdge

open WrapClock LabelledRun

/-! ### The MQTT client -/

/-- `_state` of `AsyncMqttClient`. -/
inductive ClientState where
  /-- `CONNECTING`. -/
  | connecting
  /-- `CONNECTED`. -/
  | connected
  /-- `DISCONNECTING`. -/
  | disconnecting
  /-- `DISCONNECTED`. -/
  | disconnected
  deriving DecidableEq

/-- `AsyncMqttClient::connected`. -/
def ClientState.isConnected (s : ClientState) : Bool := s = .connected

/-- `AsyncMqttClient::connect`: starts an attempt, or does nothing. -/
def ClientState.connect (s : ClientState) : ClientState :=
  if s ≠ .disconnected then s else .connecting

/-- What a drop puts an end to. -/
inductive Ended where
  /-- An attempt that had not led to a connection. -/
  | attempt
  /-- An established session. -/
  | session
  deriving DecidableEq

/-- What a drop puts an end to, if there is anything to drop. -/
def ClientState.ended : ClientState → Option Ended
  | .connecting => some .attempt
  | .connected | .disconnecting => some .session
  | .disconnected => none

/-! ### The state -/

/-- The Wi-Fi events, as far as `onWifiEvent` tells them apart. -/
inductive WifiEvent where
  /-- `ARDUINO_EVENT_WIFI_STA_GOT_IP`. -/
  | gotIp
  /-- `ARDUINO_EVENT_WIFI_STA_DISCONNECTED`. -/
  | staDisconnected
  /-- Any other event. -/
  | other
  deriving DecidableEq

/-- The variables of `src/net.cpp` and the platform under them. -/
structure Net where
  /-- The true time since power-on, in milliseconds. -/
  clock : ℕ
  /-- Whether `WiFi.status()` is `WL_CONNECTED`. -/
  linkUp : Bool
  /-- The Wi-Fi events not yet delivered, oldest first. -/
  events : List WifiEvent
  /-- The number of `WiFi.begin` calls under way. -/
  begins : ℕ
  /-- The number of `WiFi.disconnect(true)` calls made so far. -/
  disconnects : ℕ
  /-- `wifiReconnectTimer`. -/
  wifiReconnectTimer : OneShot
  /-- `mqttReconnectTimer`. -/
  mqttReconnectTimer : OneShot
  /-- `wifiAttempts`. -/
  wifiAttempts : ℕ
  /-- `mqttAttempts`. -/
  mqttAttempts : ℕ
  /-- `lastMqttConnectMs`. -/
  lastMqttConnectMs : UInt32
  /-- The state of `mqttClient`. -/
  client : ClientState
  /-- The drops not yet reported to `onMqttDisconnect`, oldest first. -/
  reports : List Ended
  /-- `ESP.restart()` has been called; nothing runs any more. -/
  restarted : Bool

namespace Net

/-- `wifiConnected`. -/
def wifiConnected (s : Net) : Bool := s.linkUp

/-! ### The handlers -/

/-- `connectToWifi`: one more `WiFi.begin` is under way. -/
def connectToWifi (s : Net) : Net := { s with begins := s.begins + 1 }

/-- `connectToMqtt`. -/
def connectToMqtt (s : Net) : Net := { s with client := s.client.connect }

/-- `onWifiTimer`. -/
def onWifiTimer (s : Net) : Net := s.connectToWifi

/-- `onMqttTimer`. -/
def onMqttTimer (s : Net) : Net := s.connectToMqtt

/-- `onWifiEvent`. -/
def onWifiEvent (cfg : Tunables) (s : Net) : WifiEvent → Net
  | .gotIp =>
    -- A pending Wi-Fi retry is left armed.
    { s with wifiAttempts := 0 }.connectToMqtt
  | .staDisconnected =>
    -- Don't chase MQTT while the link itself is down.
    let s := { s with mqttReconnectTimer := xTimerStop s.mqttReconnectTimer }
    let r := scheduleRetry cfg s.clock s.wifiReconnectTimer s.wifiAttempts
    { s with wifiReconnectTimer := r.1, wifiAttempts := r.2 }
  | .other => s

/-- `onMqttConnect`. -/
def onMqttConnect (s : Net) : Net :=
  { s with mqttAttempts := 0, lastMqttConnectMs := stamp s.clock }

/-- `WiFi.disconnect(true)`. -/
def wifiDisconnect (s : Net) : Net :=
  let s := { s with disconnects := s.disconnects + 1 }
  if s.linkUp then { s with linkUp := false, events := s.events ++ [.staDisconnected] } else s

/-- `onMqttDisconnect`. -/
def onMqttDisconnect (cfg : Tunables) (s : Net) : Net :=
  -- Without Wi-Fi nothing is scheduled; `GOT_IP` will start the next attempt.
  if !s.wifiConnected then s
  -- The report at hand is not counted yet.
  else if s.mqttAttempts ≥ cfg.mqttBounceWifiAfterAttempts.toNat then
    { s with mqttAttempts := 0 }.wifiDisconnect
  else
    let r := scheduleRetry cfg s.clock s.mqttReconnectTimer s.mqttAttempts
    { s with mqttReconnectTimer := r.1, mqttAttempts := r.2 }

/-- The static initializers, at true time `t₀`. The handles of the timers are null
until `netBegin` creates them, and nothing uses them before. -/
def powerOn (t₀ : ℕ) : Net where
  clock := t₀
  linkUp := false
  events := []
  begins := 0
  disconnects := 0
  wifiReconnectTimer := ⟨0, none⟩
  mqttReconnectTimer := ⟨0, none⟩
  wifiAttempts := 0
  mqttAttempts := 0
  lastMqttConnectMs := 0
  client := .disconnected
  reports := []
  restarted := false

/-- `netBegin`. -/
def netBegin (cfg : Tunables) (s : Net) : Net :=
  { s with
    wifiReconnectTimer := xTimerCreate (cfg.pdMsToTicks cfg.reconnectBaseMs)
    mqttReconnectTimer := xTimerCreate (cfg.pdMsToTicks cfg.reconnectBaseMs)
    lastMqttConnectMs := stamp s.clock }.connectToWifi

/-- `netLoop`. -/
def netLoop (cfg : Tunables) (s : Net) : Net :=
  let r := SentinelEdge.netLoop cfg s.client.isConnected (stamp s.clock) s.lastMqttConnectMs
  { s with lastMqttConnectMs := r.1, restarted := r.2 }

/-! ### The world -/

/-- A link change: the link is up or down from now on, the matching event is
enqueued, and a `WiFi.begin` may have come to its end. -/
def linkChange (s : Net) (up ends : Bool) : Net :=
  { s with
    linkUp := up
    events := s.events ++ [if up then .gotIp else .staDisconnected]
    begins := if ends then s.begins - 1 else s.begins }

/-- A step of the platform, of the client or of the main loop. -/
inductive Act where
  /-- Time passes. -/
  | tick (ms : ℕ)
  /-- The link comes up or goes down, and a `WiFi.begin` may end by it. -/
  | link (up ends : Bool)
  /-- An event that is neither `GOT_IP` nor `STA_DISCONNECTED` is enqueued. -/
  | otherEvent
  /-- The oldest event is delivered to `onWifiEvent`. -/
  | deliver
  /-- `wifiReconnectTimer` expires. -/
  | wifiTimer
  /-- `mqttReconnectTimer` expires. -/
  | mqttTimer
  /-- The attempt under way succeeds, and `onMqttConnect` is called. -/
  | mqttConnect
  /-- The attempt or the session under way ends: the client is disconnected. -/
  | mqttDrop
  /-- The oldest drop is reported to `onMqttDisconnect`. -/
  | report
  /-- The main loop calls `netLoop`. -/
  | netLoop
  deriving DecidableEq

/-- One step. -/
def step (cfg : Tunables) (s : Net) (a : Act) : Option Net :=
  if s.restarted then none
  else match a with
    | .tick ms => some { s with clock := s.clock + ms }
    -- only a `WiFi.begin` that is under way can end
    | .link up ends => if ends ∧ s.begins = 0 then none else some (s.linkChange up ends)
    | .otherEvent => some { s with events := s.events ++ [.other] }
    | .deliver =>
      match s.events with
      | [] => none
      | e :: es => some ({ s with events := es }.onWifiEvent cfg e)
    | .wifiTimer =>
      if s.wifiReconnectTimer.armed then
        some { s with wifiReconnectTimer := xTimerStop s.wifiReconnectTimer }.onWifiTimer
      else none
    | .mqttTimer =>
      if s.mqttReconnectTimer.armed then
        some { s with mqttReconnectTimer := xTimerStop s.mqttReconnectTimer }.onMqttTimer
      else none
    | .mqttConnect =>
      if s.client = .connecting then some { s with client := .connected }.onMqttConnect else none
    | .mqttDrop =>
      s.client.ended.map fun e =>
        { s with client := .disconnected, reports := s.reports ++ [e] }
    | .report =>
      match s.reports with
      | [] => none
      | _ :: rs => some ({ s with reports := rs }.onMqttDisconnect cfg)
    | .netLoop => some (s.netLoop cfg)

/-- The step delivers this event to `onWifiEvent`. -/
def Delivers (s : Net) (a : Act) (e : WifiEvent) : Prop :=
  a = .deliver ∧ s.events.head? = some e

instance (s : Net) (a : Act) (e : WifiEvent) : Decidable (Delivers s a e) :=
  inferInstanceAs (Decidable (_ ∧ _))

/-- **A timer fires on time**: it expires no earlier than it should, and time does
not pass its expiry. -/
def OnTime (timer : Net → OneShot) (expires : Act) (s : Net) (a : Act) (s' : Net) : Prop :=
  ∀ t ∈ (timer s).expiry, (a = expires → t ≤ s.clock) ∧ s'.clock ≤ max s.clock t

/-- `wifiReconnectTimer` fires on time. -/
abbrev WifiOnTime := OnTime wifiReconnectTimer .wifiTimer

/-- `mqttReconnectTimer` fires on time. -/
abbrev MqttOnTime := OnTime mqttReconnectTimer .mqttTimer

instance (timer : Net → OneShot) (expires : Act) (s : Net) (a : Act) (s' : Net) :
    Decidable (OnTime timer expires s a s') :=
  inferInstanceAs (Decidable (∀ t ∈ (timer s).expiry, (_ → _) ∧ _ ≤ max s.clock t))

/-! ### What a step can do -/

/-- **What a step can do**: one case per path through a handler, with the guards
that lead there and everything the step changes. -/
inductive Step (cfg : Tunables) (s : Net) : Act → Net → Prop where
  | tick (ms : ℕ) : Step cfg s (.tick ms) { s with clock := s.clock + ms }
  | linkUp (ends : Bool) : Step cfg s (.link true ends) (s.linkChange true ends)
  | linkDown (ends : Bool) : Step cfg s (.link false ends) (s.linkChange false ends)
  | otherEvent : Step cfg s .otherEvent { s with events := s.events ++ [.other] }
  | gotIp (es : List WifiEvent) (he : s.events = .gotIp :: es) :
      Step cfg s .deliver
        { s with events := es, wifiAttempts := 0, client := s.client.connect }
  | staDisconnected (es : List WifiEvent) (he : s.events = .staDisconnected :: es) :
      Step cfg s .deliver
        { s with
          events := es
          mqttReconnectTimer := xTimerStop s.mqttReconnectTimer
          wifiReconnectTimer :=
            (scheduleRetry cfg s.clock s.wifiReconnectTimer s.wifiAttempts).1
          wifiAttempts := s.wifiAttempts + 1 }
  | deliverOther (es : List WifiEvent) (he : s.events = .other :: es) :
      Step cfg s .deliver { s with events := es }
  | wifiTimer (harmed : s.wifiReconnectTimer.armed = true) :
      Step cfg s .wifiTimer
        { s with
          wifiReconnectTimer := xTimerStop s.wifiReconnectTimer
          begins := s.begins + 1 }
  | mqttTimer (harmed : s.mqttReconnectTimer.armed = true) :
      Step cfg s .mqttTimer
        { s with
          mqttReconnectTimer := xTimerStop s.mqttReconnectTimer
          client := s.client.connect }
  | mqttConnect (hclient : s.client = .connecting) :
      Step cfg s .mqttConnect
        { s with
          client := .connected
          mqttAttempts := 0
          lastMqttConnectMs := stamp s.clock }
  | mqttDrop (e : Ended) (he : s.client.ended = some e) :
      Step cfg s .mqttDrop { s with client := .disconnected, reports := s.reports ++ [e] }
  | reportDown (e : Ended) (rs : List Ended) (hr : s.reports = e :: rs)
      (hlink : s.linkUp = false) : Step cfg s .report { s with reports := rs }
  | reportBounce (e : Ended) (rs : List Ended) (hr : s.reports = e :: rs)
      (hlink : s.linkUp = true)
      (hmany : cfg.mqttBounceWifiAfterAttempts.toNat ≤ s.mqttAttempts) :
      Step cfg s .report
        { s with
          reports := rs
          mqttAttempts := 0
          disconnects := s.disconnects + 1
          linkUp := false
          events := s.events ++ [.staDisconnected] }
  | reportRetry (e : Ended) (rs : List Ended) (hr : s.reports = e :: rs)
      (hlink : s.linkUp = true)
      (hfew : s.mqttAttempts < cfg.mqttBounceWifiAfterAttempts.toNat) :
      Step cfg s .report
        { s with
          reports := rs
          mqttReconnectTimer :=
            (scheduleRetry cfg s.clock s.mqttReconnectTimer s.mqttAttempts).1
          mqttAttempts := s.mqttAttempts + 1 }
  | netLoop : Step cfg s .netLoop (s.netLoop cfg)

theorem step_cases {cfg : Tunables} {s s' : Net} {a : Act} (h : step cfg s a = some s') :
    s.restarted = false ∧ Step cfg s a s' := by
  obtain ⟨hrun, h⟩ := Option.ite_none_left_eq_some.mp h
  refine ⟨Bool.eq_false_iff.mpr hrun, ?_⟩
  cases a with
  | tick ms =>
    obtain rfl := Option.some.inj h
    exact .tick ms
  | link up ends =>
    obtain ⟨-, h⟩ := Option.ite_none_left_eq_some.mp h
    obtain rfl := Option.some.inj h
    cases up with
    | true => exact .linkUp ends
    | false => exact .linkDown ends
  | otherEvent =>
    obtain rfl := Option.some.inj h
    exact .otherEvent
  | deliver =>
    cases he : s.events with
    | nil => simp [he] at h
    | cons e es =>
      simp only [he, Option.some.injEq] at h
      subst h
      cases e with
      | gotIp => exact .gotIp es he
      | staDisconnected => exact .staDisconnected es he
      | other => exact .deliverOther es he
  | wifiTimer =>
    obtain ⟨harmed, h⟩ := Option.ite_none_right_eq_some.mp h
    obtain rfl := Option.some.inj h
    exact .wifiTimer harmed
  | mqttTimer =>
    obtain ⟨harmed, h⟩ := Option.ite_none_right_eq_some.mp h
    obtain rfl := Option.some.inj h
    exact .mqttTimer harmed
  | mqttConnect =>
    obtain ⟨hclient, h⟩ := Option.ite_none_right_eq_some.mp h
    obtain rfl := Option.some.inj h
    exact .mqttConnect hclient
  | mqttDrop =>
    obtain ⟨e, he, rfl⟩ := Option.map_eq_some_iff.mp h
    exact .mqttDrop e he
  | report =>
    cases hr : s.reports with
    | nil => simp [hr] at h
    | cons e rs =>
      simp only [hr, Option.some.injEq] at h
      subst h
      rcases Bool.eq_false_or_eq_true s.linkUp with hlink | hlink
      · rcases Nat.lt_or_ge s.mqttAttempts cfg.mqttBounceWifiAfterAttempts.toNat with hfew | hmany
        · simpa [onMqttDisconnect, wifiConnected, hlink, Nat.not_le.mpr hfew] using
            Step.reportRetry e rs hr hlink hfew
        · simpa [onMqttDisconnect, wifiConnected, wifiDisconnect, hlink, hmany] using
            Step.reportBounce e rs hr hlink hmany
      · simpa [onMqttDisconnect, wifiConnected, hlink] using Step.reportDown e rs hr hlink
  | netLoop =>
    obtain rfl := Option.some.inj h
    exact .netLoop

/-- **When the radio is bounced**: at a report handled with Wi-Fi up that finds
`mqttAttempts` at the threshold. -/
theorem disconnects_ne_iff {cfg : Tunables} {s s' : Net} {a : Act}
    (h : step cfg s a = some s') :
    s'.disconnects ≠ s.disconnects ↔
      a = .report ∧ s.linkUp = true ∧ s.reports ≠ [] ∧
        cfg.mqttBounceWifiAfterAttempts.toNat ≤ s.mqttAttempts := by
  cases (step_cases h).2 with
  | reportDown e rs hr hlink => simp [hlink]
  | reportBounce e rs hr hlink hmany => simp [hlink, hr, hmany]
  | reportRetry e rs hr hlink hfew => simp [Nat.not_le.mpr hfew]
  | _ => simp [linkChange, netLoop]

end Net

end SentinelEdge
