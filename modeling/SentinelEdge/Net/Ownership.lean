import SentinelEdge.Net

/-!
# Somebody always owns the next retry

Nothing in `src/net.cpp` polls. If the node is to come back from a lost link or a
lost session, some event that is still to come has to bring it back: an undelivered
Wi-Fi event, a drop that is not reported yet, a timer, or a `WiFi.begin` that is
still to end. The wake-up is handed from one to the other by handlers that may run
in any order, and one of them, `onMqttDisconnect`, drops it on the floor when it
finds Wi-Fi down.

This file shows that the wake-up is never lost
(`SentinelEdge.Net.retry_owned`). The invariant
(`SentinelEdge.Net.Owned`) says who holds it *while* events are in flight.

* With the link down, an undelivered `STA_DISCONNECTED`, or the Wi-Fi timer, or a
  `WiFi.begin` holds it; and the MQTT timer can be armed only as long as the
  `STA_DISCONNECTED` that will stop it is undelivered.
* With the link up and the client disconnected, once every drop has been reported,
  an undelivered `GOT_IP` holds it, or the MQTT timer does with no
  `STA_DISCONNECTED` left to stop it.

The link between the two is the order of the queue: with the link up, behind every
undelivered `STA_DISCONNECTED` there is a `GOT_IP`
(`SentinelEdge.Net.Settled`), which starts the attempt that the stopped timer would
have started.
-/

namespace SentinelEdge

open LabelledRun

namespace Net

/-! ### The order of the queue -/

/-- Behind every undelivered `STA_DISCONNECTED` there is a `GOT_IP`. -/
def Settled : List WifiEvent → Prop
  | [] => True
  | .staDisconnected :: es => .gotIp ∈ es ∧ Settled es
  | _ :: es => Settled es

theorem Settled.tail {e : WifiEvent} {es : List WifiEvent} (h : Settled (e :: es)) :
    Settled es := by
  cases e with
  | staDisconnected => exact h.2
  | gotIp => exact h
  | other => exact h

/-- A queue that ends with `GOT_IP` is settled, whatever is in front of it. -/
theorem settled_append_gotIp (es : List WifiEvent) : Settled (es ++ [.gotIp]) := by
  induction es with
  | nil => trivial
  | cons e es ih =>
    cases e with
    | staDisconnected => exact ⟨by simp, ih⟩
    | gotIp => exact ih
    | other => exact ih

theorem Settled.append_other {es : List WifiEvent} (h : Settled es) :
    Settled (es ++ [.other]) := by
  induction es with
  | nil => trivial
  | cons e es ih =>
    cases e with
    | staDisconnected => exact ⟨List.mem_append_left _ h.1, ih h.2⟩
    | gotIp => exact ih h
    | other => exact ih h

theorem Settled.gotIp_mem {es : List WifiEvent} (h : Settled es)
    (hmem : WifiEvent.staDisconnected ∈ es) : WifiEvent.gotIp ∈ es := by
  induction es with
  | nil => exact absurd hmem List.not_mem_nil
  | cons e es ih =>
    cases e with
    | staDisconnected => exact List.mem_cons_of_mem _ h.1
    | gotIp => exact List.mem_cons_self
    | other =>
      refine List.mem_cons_of_mem _ (ih h ?_)
      simpa using hmem

/-! ### The invariant -/

/-- **Who holds the next wake-up.** -/
structure Owned (s : Net) : Prop where
  /-- With the link up, the undelivered events end with it up. -/
  settled : s.linkUp = true → Settled s.events
  /-- With the link down, the MQTT timer is about to be stopped. -/
  unchased : s.linkUp = false → s.mqttReconnectTimer.armed = true →
    .staDisconnected ∈ s.events
  /-- With the link down, somebody will bring it back. -/
  wifi : s.linkUp = false →
    .staDisconnected ∈ s.events ∨ s.wifiReconnectTimer.armed = true ∨ 0 < s.begins
  /-- With the link up and the client down, somebody will start an attempt. -/
  mqtt : s.linkUp = true → s.client = .disconnected → s.reports = [] →
    .gotIp ∈ s.events ∨
      s.mqttReconnectTimer.armed = true ∧ .staDisconnected ∉ s.events

theorem owned_netBegin (cfg : Tunables) (t₀ : ℕ) : Owned (netBegin cfg (powerOn t₀)) where
  settled := fun h => by cases h
  unchased := fun _ h => by cases h
  wifi := fun _ => Or.inr (Or.inr Nat.one_pos)
  mqtt := fun h => by cases h

/-- After `connect()` the client is not disconnected: either it was not, and the
call was ignored, or an attempt is under way. -/
theorem connect_ne_disconnected (c : ClientState) : c.connect ≠ .disconnected := by
  cases c <;> decide

/-- Delivering any other event than `STA_DISCONNECTED` takes nothing from what is known
of the link. -/
theorem Owned.deliver {s : Net} (hO : Owned s) {e : WifiEvent} {es : List WifiEvent}
    (he : s.events = e :: es) (hne : .staDisconnected ≠ e) :
    (s.linkUp = true → Settled es) ∧
      (s.linkUp = false → s.mqttReconnectTimer.armed = true → .staDisconnected ∈ es) ∧
      (s.linkUp = false →
        .staDisconnected ∈ es ∨ s.wifiReconnectTimer.armed = true ∨ 0 < s.begins) := by
  have hbehind : .staDisconnected ∈ s.events → .staDisconnected ∈ es := by
    rw [he]
    exact fun hmem => (List.mem_cons.mp hmem).resolve_left hne
  refine ⟨fun hup => (he ▸ hO.settled hup).tail, ?_, ?_⟩
  · intro hdown harmed
    exact hbehind (hO.unchased hdown harmed)
  · intro hdown
    exact (hO.wifi hdown).imp_left hbehind

/-- **Delivering `STA_DISCONNECTED`** hands the Wi-Fi wake-up to the timer, and with
the link up leaves the MQTT one to the `GOT_IP` behind it. -/
theorem Owned.staDisconnected {s : Net} (hO : Owned s) {es : List WifiEvent}
    (he : s.events = .staDisconnected :: es) (timer : OneShot) (harmed : timer.armed = true)
    (n : ℕ) :
    Owned { s with
      events := es
      mqttReconnectTimer := xTimerStop s.mqttReconnectTimer
      wifiReconnectTimer := timer
      wifiAttempts := n } where
  settled := fun hup => (he ▸ hO.settled hup).tail
  unchased := fun _ h => by simp at h
  wifi := fun _ => Or.inr (Or.inl harmed)
  mqtt := fun hup hclient hreports => by
    have hbehind : .gotIp ∈ es := (he ▸ hO.settled hup : Settled (.staDisconnected :: es)).1
    exact Or.inl hbehind

/-- **Reporting the last drop** with the link up arms the MQTT timer; if an
undelivered event is going to stop it, a `GOT_IP` is behind that event. -/
theorem Owned.retry {s : Net} (hO : Owned s) (hlink : s.linkUp = true) (rs : List Ended)
    (timer : OneShot) (harmed : timer.armed = true) (n : ℕ) :
    Owned { s with reports := rs, mqttReconnectTimer := timer, mqttAttempts := n } where
  settled := hO.settled
  unchased := fun hdown => by
    have : s.linkUp = false := hdown
    rw [hlink] at this
    cases this
  wifi := hO.wifi
  mqtt := fun _ _ _ => by
    by_cases hsta : WifiEvent.staDisconnected ∈ s.events
    · exact Or.inl ((hO.settled hlink).gotIp_mem hsta)
    · exact Or.inr ⟨harmed, hsta⟩

/-- **The step lemma**: every step of the platform, the client and the main loop
hands the wake-up on. -/
theorem owned_step (cfg : Tunables) (s : Net) (a : Act) (s' : Net) (hO : Owned s)
    (h : step cfg s a = some s') : Owned s' := by
  cases (step_cases h).2 with
  | tick ms => exact ⟨hO.settled, hO.unchased, hO.wifi, hO.mqtt⟩
  | linkUp ends =>
    have hup : (s.linkChange true ends).linkUp ≠ false := by simp [linkChange]
    refine ⟨fun _ => settled_append_gotIp _, fun h => absurd h hup, fun h => absurd h hup, ?_⟩
    exact fun _ _ _ => Or.inl (by simp [linkChange])
  | linkDown ends =>
    have hsta : .staDisconnected ∈ (s.linkChange false ends).events := by simp [linkChange]
    have hdown : (s.linkChange false ends).linkUp ≠ true := by simp [linkChange]
    exact ⟨fun h => absurd h hdown, fun _ _ => hsta, fun _ => Or.inl hsta,
      fun h => absurd h hdown⟩
  | otherEvent =>
    refine ⟨fun hup => (hO.settled hup).append_other, ?_, ?_, ?_⟩
    · exact fun hdown harmed => List.mem_append_left _ (hO.unchased hdown harmed)
    · exact fun hdown => (hO.wifi hdown).imp_left (List.mem_append_left _)
    · intro hup hclient hreports
      refine (hO.mqtt hup hclient hreports).imp (List.mem_append_left _) fun h => ⟨h.1, ?_⟩
      simpa using h.2
  | gotIp es he =>
    obtain ⟨hsettled, hunchased, hwifi⟩ := hO.deliver he (by simp)
    exact ⟨hsettled, hunchased, hwifi, fun _ hclient => absurd hclient (connect_ne_disconnected _)⟩
  | staDisconnected es he => exact hO.staDisconnected he _ (scheduleRetry_armed _ _ _ _) _
  | deliverOther es he =>
    obtain ⟨hsettled, hunchased, hwifi⟩ := hO.deliver he (by simp)
    refine ⟨hsettled, hunchased, hwifi, ?_⟩
    intro hup hclient hreports
    simpa [he] using hO.mqtt hup hclient hreports
  | wifiTimer harmed =>
    exact ⟨hO.settled, hO.unchased, fun _ => Or.inr (Or.inr (Nat.succ_pos _)), hO.mqtt⟩
  | mqttTimer harmed =>
    refine ⟨hO.settled, fun _ h => by simp at h, hO.wifi, ?_⟩
    exact fun _ hclient => absurd hclient (connect_ne_disconnected _)
  | mqttConnect hclient => exact ⟨hO.settled, hO.unchased, hO.wifi, fun _ h => by cases h⟩
  | mqttDrop e he =>
    exact ⟨hO.settled, hO.unchased, hO.wifi, fun _ _ h => by simp at h⟩
  | reportDown e rs hr hlink =>
    refine ⟨hO.settled, hO.unchased, hO.wifi, fun hup => ?_⟩
    have : s.linkUp = true := hup
    rw [hlink] at this
    cases this
  | reportBounce e rs hr hlink hmany =>
    have hsta : WifiEvent.staDisconnected ∈ s.events ++ [.staDisconnected] := by simp
    exact ⟨fun h => absurd h (by simp), fun _ _ => hsta, fun _ => Or.inl hsta,
      fun h => absurd h (by simp)⟩
  | reportRetry e rs hr hlink hfew =>
    exact hO.retry hlink rs _ (scheduleRetry_armed _ _ _ _) _
  | netLoop => exact ⟨hO.settled, hO.unchased, hO.wifi, hO.mqtt⟩

/-- **The next retry always has an owner.** In every state the node can reach after
`netBegin` in which no Wi-Fi event is undelivered and no drop unreported: with the
link up and the client disconnected the MQTT timer is armed; with the link down the
MQTT timer is not armed, and the Wi-Fi timer is or a `WiFi.begin` is under way. -/
theorem retry_owned (cfg : Tunables) (t₀ : ℕ) (as : List Act) (s : Net)
    (hrun : exec (step cfg) (netBegin cfg (powerOn t₀)) as = some s)
    (hevents : s.events = []) (hreports : s.reports = []) :
    (s.linkUp = true → s.client = .disconnected → s.mqttReconnectTimer.armed = true) ∧
      (s.linkUp = false →
        s.mqttReconnectTimer.armed = false ∧
          (s.wifiReconnectTimer.armed = true ∨ 0 < s.begins)) := by
  have hO : Owned s := exec_inv (owned_step cfg) (owned_netBegin cfg t₀) hrun
  refine ⟨fun hup hclient => ?_, fun hdown => ⟨?_, ?_⟩⟩
  · rcases hO.mqtt hup hclient hreports with hgot | ⟨harmed, -⟩
    · rw [hevents] at hgot
      exact absurd hgot List.not_mem_nil
    · exact harmed
  · rw [Bool.eq_false_iff]
    intro harmed
    have hsta := hO.unchased hdown harmed
    rw [hevents] at hsta
    exact absurd hsta List.not_mem_nil
  · rcases hO.wifi hdown with hsta | howner
    · rw [hevents] at hsta
      exact absurd hsta List.not_mem_nil
    · exact howner

/-- The link comes up, the client connects, and the session is lost with the link
still up. -/
def runLostSession : List Act := [.link true true, .deliver, .mqttConnect, .mqttDrop, .report]

theorem retry_owned_lostSession :
    ∃ s, exec (step configH) (netBegin configH (powerOn 0)) runLostSession = some s ∧
      s.mqttReconnectTimer.armed = true :=
  ⟨_, rfl, (retry_owned configH 0 runLostSession _ rfl rfl rfl).1 rfl rfl⟩

end Net

end SentinelEdge
