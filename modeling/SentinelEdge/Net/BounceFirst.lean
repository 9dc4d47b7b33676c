import Mathlib.Algebra.BigOperators.Group.Finset.Basic
import SentinelEdge.Net

/-!
# The bounce comes before the reboot

Two remedies wait for a broker that no longer answers while Wi-Fi is up:
`onMqttDisconnect` bounces the radio after a number of retries, and `netLoop` reboots
the node after `OFFLINE_REBOOT_MS`. The bounce is the milder one, and is of use only
if it comes first.

When it comes can be computed. A *chase* begins with a disconnect report that is
handled with `mqttAttempts` at zero, `s` milliseconds after `lastMqttConnectMs` was
written. Each report of the chase schedules a retry with the next delay of the
backoff law, and retry number `i` is reported as failed `dᵢ` milliseconds after it
started. So report number `k` is handled at `SentinelEdge.Net.reportTime`,

  `s + ∑ dᵢ + ∑ backoffLaw k`,

and the report that finds `MQTT_BOUNCE_WIFI_AFTER_ATTEMPTS` attempts counted bounces
the radio (`SentinelEdge.Net.bouncesFirst`).

The chase goes through phases – the timer is running, the client is trying, the
drop is unreported – and `SentinelEdge.Net.Phase` says for each of them what the
counters and the timer hold and within which bounds the clock is. Each step stays in
its phase or leads to the next (`SentinelEdge.Net.chaseInv_step`).
-/

namespace SentinelEdge

open WrapClock LabelledRun

namespace Net

/-! ### A chase -/

/-- What an observer notes of a chase. -/
structure Chase where
  /-- The number of retries started. -/
  fired : ℕ
  /-- The true time at which the last one started. -/
  firedAt : ℕ
  /-- The number of reports handled, the first one included. -/
  reported : ℕ
  /-- Whether the radio has been bounced. -/
  bounced : Bool

/-- How a step moves the chase. -/
def Chase.upd (c : Chase) (s : Net) (a : Act) (s' : Net) : Chase :=
  match a with
  | .mqttTimer => { c with fired := c.fired + 1, firedAt := s.clock }
  | .report =>
    if s'.disconnects ≠ s.disconnects then { c with bounced := true }
    else { c with reported := c.reported + 1 }
  | _ => c

/-- The node with its chase. -/
abbrev chased (cfg : Tunables) : Net × Chase → Act → Option (Net × Chase) :=
  observe (step cfg) Chase.upd

/-- **A chase can begin**: `w` is the true time at which `lastMqttConnectMs` was last
written, and a drop is to be reported with Wi-Fi up and no attempt counted. -/
structure ChaseStart (s : Net) (w : ℕ) : Prop where
  running : s.restarted = false
  up : s.linkUp = true
  down : s.client = .disconnected
  dropped : ∃ e, s.reports = [e]
  uncounted : s.mqttAttempts = 0
  written : s.lastMqttConnectMs = stamp w
  written_le : w ≤ s.clock

/-- Wi-Fi stays up: the link does not go down, and no `STA_DISCONNECTED` is
delivered. -/
def StaysUp (s : Net) (a : Act) : Prop :=
  (∀ ends, a ≠ .link false ends) ∧ ¬Delivers s a .staDisconnected

/-- No attempt is made but by the MQTT timer. -/
def OnlyTimerStarts (s : Net) (a : Act) (s' : Net) : Prop :=
  s.client = .disconnected → s'.client = .connecting → a = .mqttTimer

/-- While a retry is outstanding, it is reported exactly `d i` milliseconds after its
start, where `i` is its number. -/
def ReportedAfter (d : ℕ → ℕ) (s : Net) (c : Chase) (a : Act) (s' : Net) : Prop :=
  0 < c.fired → c.fired = c.reported →
    (a = .report → s.clock = c.firedAt + d c.fired) ∧
      s'.clock ≤ max s.clock (c.firedAt + d c.fired)

/-- **The chase**, as long as the radio has not been bounced: it begins with the
report, Wi-Fi stays up, no connect succeeds, the retries are made by the MQTT timer,
on time, and nothing else starts an attempt, and retry number `i` is reported `d i`
milliseconds after its start. -/
def Chases (d : ℕ → ℕ) (x : Net × Chase) (a : Act) (y : Net × Chase) : Prop :=
  x.2.bounced = false →
    (x.2.reported = 0 → a = .report) ∧ StaysUp x.1 a ∧ a ≠ .mqttConnect ∧
      OnlyTimerStarts x.1 a y.1 ∧ MqttOnTime x.1 a y.1 ∧ ReportedAfter d x.1 x.2 a y.1

instance (s : Net) (a : Act) : Decidable (StaysUp s a) := inferInstanceAs (Decidable (_ ∧ _))

instance (s : Net) (a : Act) (s' : Net) : Decidable (OnlyTimerStarts s a s') :=
  inferInstanceAs (Decidable (_ → _ → _))

instance (d : ℕ → ℕ) (s : Net) (c : Chase) (a : Act) (s' : Net) :
    Decidable (ReportedAfter d s c a s') :=
  inferInstanceAs (Decidable (_ → _ → _ ∧ _))

instance (d : ℕ → ℕ) (x : Net × Chase) (a : Act) (y : Net × Chase) :
    Decidable (Chases d x a y) :=
  inferInstanceAs (Decidable (_ → _))

/-! ### When report number `k` is handled -/

/-- The time, since `lastMqttConnectMs` was written, at which report number `k` of the
chase is handled, the first one being number zero and handled at `s`. -/
def reportTime (cfg : Tunables) (d : ℕ → ℕ) (s k : ℕ) : ℕ :=
  s + (∑ i ∈ Finset.range k, d (i + 1)) + ∑ i ∈ Finset.range k, backoffLaw cfg i

theorem reportTime_zero (cfg : Tunables) (d : ℕ → ℕ) (s : ℕ) : reportTime cfg d s 0 = s := by
  simp [reportTime]

/-- The next report comes after the backoff and the duration of the retry. -/
theorem reportTime_succ (cfg : Tunables) (d : ℕ → ℕ) (s k : ℕ) :
    reportTime cfg d s (k + 1) = reportTime cfg d s k + backoffLaw cfg k + d (k + 1) := by
  rw [reportTime, reportTime, Finset.sum_range_succ, Finset.sum_range_succ]
  omega

theorem reportTime_mono (cfg : Tunables) (d : ℕ → ℕ) (s : ℕ) : Monotone (reportTime cfg d s) :=
  monotone_nat_of_le_succ fun k => by
    rw [reportTime_succ]
    omega

theorem reportTime_succ_le {k n : ℕ} (cfg : Tunables) (d : ℕ → ℕ) (s : ℕ) (hk : k < n) :
    reportTime cfg d s (k + 1) ≤ reportTime cfg d s n :=
  reportTime_mono cfg d s hk

/-! ### The phases -/

/-- **The phases of a chase** that began `s` milliseconds after `w`, up to the
bounce. -/
inductive Phase (cfg : Tunables) (d : ℕ → ℕ) (w s clock attempts : ℕ) (client : ClientState)
    (reports : List Ended) (expiry : Option ℕ) (c : Chase) : Prop where
  /-- The first report is to be handled. -/
  | opening (e : Ended) (hclock : clock = w + s) (hattempts : attempts = 0)
      (hclient : client = .disconnected) (hreports : reports = [e])
      (hfired : c.fired = 0) (hreported : c.reported = 0)
  /-- Retry number `k + 1` is scheduled. -/
  | waiting (k : ℕ) (hk : k < cfg.mqttBounceWifiAfterAttempts.toNat)
      (hclock : clock ≤ w + reportTime cfg d s k + backoffLaw cfg k)
      (hattempts : attempts = k + 1) (hclient : client = .disconnected) (hreports : reports = [])
      (hexpiry : expiry = some (w + reportTime cfg d s k + backoffLaw cfg k))
      (hfired : c.fired = k) (hreported : c.reported = k + 1)
  /-- Retry number `k + 1` is under way, or its drop is unreported. -/
  | trying (k : ℕ) (hk : k < cfg.mqttBounceWifiAfterAttempts.toNat)
      (hclock : clock ≤ w + reportTime cfg d s (k + 1)) (hattempts : attempts = k + 1)
      (hclient : client = .connecting ∧ reports = [] ∨
        client = .disconnected ∧ reports = [.attempt])
      (hexpiry : expiry = none)
      (hfired : c.fired = k + 1)
      (hfiredAt : c.firedAt = w + reportTime cfg d s k + backoffLaw cfg k)
      (hreported : c.reported = k + 1)

/-- **The invariant of a chase**: Wi-Fi is up, the watchdog's stamp is still the one
that was there at the beginning, and the chase is in one of its phases; or the radio
has been bounced. -/
def ChaseInv (cfg : Tunables) (d : ℕ → ℕ) (w s : ℕ) (x : Net × Chase) : Prop :=
  x.2.bounced = false →
    x.1.linkUp = true ∧ x.1.lastMqttConnectMs = stamp w ∧ w ≤ x.1.clock ∧
      Phase cfg d w s x.1.clock x.1.mqttAttempts x.1.client x.1.reports
        x.1.mqttReconnectTimer.expiry x.2

section

variable {cfg : Tunables} {d : ℕ → ℕ} {w s clock attempts : ℕ} {client : ClientState}
  {reports : List Ended} {expiry : Option ℕ} {c : Chase}

/-- Until the bounce, the time of the bounce has not passed. -/
theorem Phase.clock_le (h : Phase cfg d w s clock attempts client reports expiry c) :
    clock ≤ w + reportTime cfg d s cfg.mqttBounceWifiAfterAttempts.toNat := by
  cases h with
  | opening e hclock =>
    have := reportTime_mono cfg d s (Nat.zero_le cfg.mqttBounceWifiAfterAttempts.toNat)
    rw [reportTime_zero] at this
    omega
  | waiting k hk hclock =>
    have := reportTime_succ cfg d s k
    have := reportTime_succ_le cfg d s hk
    omega
  | trying k hk hclock =>
    have := reportTime_succ_le cfg d s hk
    omega

/-- In a chase the client is never connected. -/
theorem Phase.not_connected (h : Phase cfg d w s clock attempts client reports expiry c) :
    client.isConnected = false := by
  cases h with
  | opening e hclock hattempts hclient => rw [hclient]; rfl
  | waiting k hk hclock hattempts hclient => rw [hclient]; rfl
  | trying k hk hclock hattempts hclient =>
    rcases hclient with ⟨hclient, -⟩ | ⟨hclient, -⟩ <;> rw [hclient] <;> rfl

/-- **A report of the chase** is handled at its time, and finds its number
counted. -/
theorem Phase.at_report (h : Phase cfg d w s clock attempts client reports expiry c)
    {e : Ended} {rs : List Ended} (hr : reports = e :: rs)
    (hafter : 0 < c.fired → c.fired = c.reported → clock = c.firedAt + d c.fired) :
    clock = w + reportTime cfg d s attempts ∧
      attempts ≤ cfg.mqttBounceWifiAfterAttempts.toNat ∧
      client = .disconnected ∧ rs = [] ∧ c.fired = attempts ∧ c.reported = attempts := by
  cases h with
  | opening e' hclock hattempts hclient hreports hfired hreported =>
    obtain ⟨-, rfl⟩ := List.cons.inj (hr.symm.trans hreports)
    subst hattempts
    exact ⟨by rw [reportTime_zero, hclock], Nat.zero_le _, hclient, rfl, hfired, hreported⟩
  | waiting k hk hclock hattempts hclient hreports => rw [hreports] at hr; cases hr
  | trying k hk hclock hattempts hclient hexpiry hfired hfiredAt hreported =>
    rcases hclient with ⟨-, hreports⟩ | ⟨hclient, hreports⟩
    · rw [hreports] at hr
      cases hr
    · obtain ⟨-, rfl⟩ := List.cons.inj (hr.symm.trans hreports)
      have hnow : clock = c.firedAt + d c.fired := hafter (by omega) (by omega)
      subst hattempts
      refine ⟨?_, hk, hclient, rfl, hfired, hreported⟩
      rw [reportTime_succ, hnow, hfiredAt, hfired]
      omega

/-- Time passes, but not an expiry, nor the end of a retry. -/
theorem Phase.tick (h : Phase cfg d w s clock attempts client reports expiry c) {later : ℕ}
    (hbegun : c.reported ≠ 0) (htime : ∀ t ∈ expiry, later ≤ max clock t)
    (hafter : 0 < c.fired → c.fired = c.reported →
      later ≤ max clock (c.firedAt + d c.fired)) :
    Phase cfg d w s later attempts client reports expiry c := by
  cases h with
  | opening e hclock hattempts hclient hreports hfired hreported => exact absurd hreported hbegun
  | waiting k hk hclock hattempts hclient hreports hexpiry hfired hreported =>
    refine .waiting k hk ?_ hattempts hclient hreports hexpiry hfired hreported
    have := htime _ hexpiry
    omega
  | trying k hk hclock hattempts hclient hexpiry hfired hfiredAt hreported =>
    refine .trying k hk ?_ hattempts hclient hexpiry hfired hfiredAt hreported
    have hlater := hafter (by omega) (by omega)
    rw [reportTime_succ] at hclock ⊢
    rw [hfiredAt, hfired] at hlater
    omega

/-- The timer expires, on time, and the next retry starts. -/
theorem Phase.fire (h : Phase cfg d w s clock attempts client reports expiry c)
    (hbegun : c.reported ≠ 0) (harmed : expiry.isSome = true) (htime : ∀ t ∈ expiry, t ≤ clock) :
    Phase cfg d w s clock attempts client.connect reports none
      { c with fired := c.fired + 1, firedAt := clock } := by
  cases h with
  | opening e hclock hattempts hclient hreports hfired hreported => exact absurd hreported hbegun
  | waiting k hk hclock hattempts hclient hreports hexpiry hfired hreported =>
    have hnow := htime _ hexpiry
    refine .trying k hk ?_ hattempts (Or.inl ⟨by rw [hclient]; rfl, hreports⟩) rfl ?_ ?_ hreported
    · rw [reportTime_succ]
      omega
    · exact congrArg (· + 1) hfired
    · exact Nat.le_antisymm hclock hnow
  | trying k hk hclock hattempts hclient hexpiry => rw [hexpiry] at harmed; cases harmed

/-- The retry under way ends. -/
theorem Phase.drop (h : Phase cfg d w s clock attempts client reports expiry c) {e : Ended}
    (he : client.ended = some e) :
    Phase cfg d w s clock attempts .disconnected (reports ++ [e]) expiry c := by
  cases h with
  | opening e' hclock hattempts hclient => rw [hclient] at he; cases he
  | waiting k hk hclock hattempts hclient => rw [hclient] at he; cases he
  | trying k hk hclock hattempts hclient hexpiry hfired hfiredAt hreported =>
    refine .trying k hk hclock hattempts (Or.inr ⟨rfl, ?_⟩) hexpiry hfired hfiredAt hreported
    rcases hclient with ⟨hclient, hreports⟩ | ⟨hclient, -⟩
    · rw [hclient] at he
      cases he
      rw [hreports]
      rfl
    · rw [hclient] at he
      cases he

/-- A report below the threshold schedules the next retry. -/
theorem Phase.retry (h : Phase cfg d w s clock attempts client reports expiry c)
    {e : Ended} {rs : List Ended} (hr : reports = e :: rs)
    (hafter : 0 < c.fired → c.fired = c.reported → clock = c.firedAt + d c.fired)
    (hfew : attempts < cfg.mqttBounceWifiAfterAttempts.toNat) :
    Phase cfg d w s clock (attempts + 1) client rs (some (clock + backoffLaw cfg attempts))
      { c with reported := c.reported + 1 } := by
  obtain ⟨hclock, -, hclient, hrs, hfired, hreported⟩ := h.at_report hr hafter
  refine .waiting attempts hfew ?_ rfl hclient hrs ?_ hfired ?_
  · rw [hclock]
    exact Nat.le_add_right _ _
  · rw [hclock]
  · exact congrArg (· + 1) hreported

end

/-! ### One step of a chase -/

/-- A bounce is not taken back. -/
theorem Chase.not_bounced {c : Chase} {s s' : Net} {a : Act}
    (h : (c.upd s a s').bounced = false) : c.bounced = false := by
  cases a with
  | report =>
    rw [Chase.upd] at h
    split at h
    · cases h
    · exact h
  | _ => exact h

/-- An ignored `connect()` leaves the client as it is. -/
theorem connect_eq_self {client : ClientState} (h : client ≠ .disconnected) :
    client.connect = client := if_pos h

/-- A `netLoop` call that finds the client offline leaves the stamp as it is. -/
theorem netLoop_lastMqttConnectMs (cfg : Tunables) {s : Net} (h : s.client.isConnected = false) :
    (s.netLoop cfg).lastMqttConnectMs = s.lastMqttConnectMs := by
  rw [netLoop, h, netLoop_offline]

section

variable {cfg : Tunables} {d : ℕ → ℕ} {w t : ℕ}

/-- **The step lemma**: a step of the chase stays in its phase, or leads to the next
one, or bounces the radio. -/
theorem chaseInv_step (hticks : TicksExact cfg) (s : Net) (c : Chase) (a : Act) (s' : Net)
    (hinv : ChaseInv cfg d w t (s, c)) (hs : step cfg s a = some s')
    (hchase : Chases d (s, c) a (s', c.upd s a s')) :
    ChaseInv cfg d w t (s', c.upd s a s') := by
  intro hbounced
  have hgoing : c.bounced = false := Chase.not_bounced hbounced
  obtain ⟨hup, hwritten, hle, hphase⟩ := hinv hgoing
  obtain ⟨hfirst, ⟨hlink, hsta⟩, hconnect, honly, htime, hafter⟩ := hchase hgoing
  have hbegun : a ≠ .report → c.reported ≠ 0 := mt hfirst
  cases (step_cases hs).2 with
  | tick ms =>
    refine ⟨hup, hwritten, Nat.le_add_right_of_le hle, ?_⟩
    exact hphase.tick (hbegun (by simp)) (fun t ht => (htime t ht).2)
      fun hpos heq => (hafter hpos heq).2
  | linkUp ends => exact ⟨rfl, hwritten, hle, hphase⟩
  | linkDown ends => exact absurd rfl (hlink ends)
  | otherEvent => exact ⟨hup, hwritten, hle, hphase⟩
  | gotIp es he =>
    refine ⟨hup, hwritten, hle, ?_⟩
    -- with the client disconnected this would be another attempt
    have hbusy : s.client ≠ .disconnected := fun hclient => by
      have := honly hclient (show s.client.connect = .connecting by rw [hclient]; rfl)
      cases this
    show Phase cfg d w t s.clock s.mqttAttempts s.client.connect s.reports _ c
    rw [connect_eq_self hbusy]
    exact hphase
  | staDisconnected es he => exact absurd ⟨rfl, by rw [he]; rfl⟩ hsta
  | deliverOther es he => exact ⟨hup, hwritten, hle, hphase⟩
  | wifiTimer harmed => exact ⟨hup, hwritten, hle, hphase⟩
  | mqttTimer harmed =>
    exact ⟨hup, hwritten, hle, hphase.fire (hbegun (by simp)) harmed fun t ht => (htime t ht).1 rfl⟩
  | mqttConnect hclient => exact absurd rfl hconnect
  | mqttDrop e he => exact ⟨hup, hwritten, hle, hphase.drop he⟩
  | reportDown e rs hr hdown => exact absurd (hup.symm.trans hdown) (by simp)
  | reportBounce e rs hr _ hmany => simp [Chase.upd] at hbounced
  | reportRetry e rs hr _ hfew =>
    have hnext := hphase.retry hr (fun hpos heq => (hafter hpos heq).1 rfl) hfew
    rw [← scheduleRetry_expiry hticks s.clock s.mqttReconnectTimer] at hnext
    refine ⟨hup, hwritten, hle, ?_⟩
    simpa [Chase.upd] using hnext
  | netLoop =>
    -- the client is offline, so the stamp is not renewed
    refine ⟨hup, ?_, hle, hphase⟩
    rw [← hwritten]
    exact netLoop_lastMqttConnectMs cfg hphase.not_connected

/-- A chase that can begin is in its opening phase. -/
theorem chaseInv_start {s₀ : Net} (h : ChaseStart s₀ w) :
    ChaseInv cfg d w (s₀.clock - w) (s₀, ⟨0, s₀.clock, 0, false⟩) := by
  intro _
  obtain ⟨e, hreports⟩ := h.dropped
  refine ⟨h.up, h.written, h.written_le, .opening e ?_ h.uncounted h.down hreports rfl rfl⟩
  exact (Nat.add_sub_cancel' h.written_le).symm

end

/-! ### The bounce and the reboot -/

/-- **The bounce comes first**, at time `w + bounceTime`: the radio is first bounced
then, not earlier; time does not pass that moment without the bounce; and if that is
less than `OFFLINE_REBOOT_MS` after `w`, nothing restarts the device before the
bounce. -/
def BouncesFirst (cfg : Tunables) (w bounceTime : ℕ) (x : Net × Chase) (_ : Act)
    (y : Net × Chase) : Prop :=
  x.2.bounced = false →
    (y.1.disconnects ≠ x.1.disconnects → x.1.clock = w + bounceTime) ∧
      (y.2.bounced = false → y.1.clock ≤ w + bounceTime) ∧
      (bounceTime < cfg.offlineRebootMs.toNat → y.2.bounced = false →
        y.1.restarted = false)

section

variable {cfg : Tunables} {d : ℕ → ℕ} {w t : ℕ}

/-- A bounce of the chase comes at its time. -/
theorem clock_of_bounce {s s' : Net} {c : Chase} {a : Act}
    (hinv : ChaseInv cfg d w t (s, c)) (hs : step cfg s a = some s') (hgoing : c.bounced = false)
    (hafter : ReportedAfter d s c a s') (hbounce : s'.disconnects ≠ s.disconnects) :
    s.clock = w + reportTime cfg d t cfg.mqttBounceWifiAfterAttempts.toNat := by
  obtain ⟨-, -, -, hphase⟩ := hinv hgoing
  obtain ⟨ha, -, hne, hmany⟩ := (disconnects_ne_iff hs).mp hbounce
  obtain ⟨e, rs, hr⟩ := List.exists_cons_of_ne_nil hne
  obtain ⟨hclock, hle, -⟩ := hphase.at_report hr fun hpos heq => (hafter hpos heq).1 ha
  rwa [Nat.le_antisymm hle hmany] at hclock

/-- No step but `netLoop` restarts the device, and that only when `OFFLINE_REBOOT_MS`
have passed since the stamp was written. -/
theorem restarted_of_early {s s' : Net} {a : Act} (hs : step cfg s a = some s')
    (hwritten : s.lastMqttConnectMs = stamp w) (hle : w ≤ s.clock)
    (hearly : s.clock < w + cfg.offlineRebootMs.toNat) : s'.restarted = false := by
  obtain ⟨hrunning, hstep⟩ := step_cases hs
  cases hstep with
  | netLoop =>
    cases hclient : s.client.isConnected with
    | true => rw [netLoop, hclient, netLoop_connected]
    | false =>
      rw [netLoop, hclient, netLoop_offline, hwritten]
      refine decide_eq_false fun hage => ?_
      have := le_of_le_stamp_sub hle hage
      omega
  | _ => exact hrunning

/-- **The bounce comes before the reboot.** In every run that chases a broker after a
first report, handled `s₀.clock - w` milliseconds after `lastMqttConnectMs` was
written, the radio is first bounced exactly when the last report is due, and if that
is before `OFFLINE_REBOOT_MS` no `netLoop` call restarts the device before it. -/
theorem bouncesFirst (cfg : Tunables) (hticks : TicksExact cfg) (d : ℕ → ℕ) (w : ℕ)
    (s₀ : Net) (h : ChaseStart s₀ w) (as : List Act)
    (hchase : Along (chased cfg) (Chases d) (s₀, ⟨0, s₀.clock, 0, false⟩) as) :
    Along (chased cfg)
      (BouncesFirst cfg w
        (reportTime cfg d (s₀.clock - w) cfg.mqttBounceWifiAfterAttempts.toNat))
      (s₀, ⟨0, s₀.clock, 0, false⟩) as := by
  refine along_observe_of_inv (J := ChaseInv cfg d w (s₀.clock - w)) (fun s c a s' hinv hs hp => ?_)
    (chaseInv_start h) hchase
  have hinv' := chaseInv_step hticks s c a s' hinv hs hp
  refine ⟨hinv', fun hgoing => ⟨fun hbounce => ?_, fun hgoing' => ?_, fun hearly _ => ?_⟩⟩
  · obtain ⟨-, -, -, -, -, hafter⟩ := hp hgoing
    exact clock_of_bounce hinv hs hgoing hafter hbounce
  · obtain ⟨-, -, -, hphase⟩ := hinv' hgoing'
    exact hphase.clock_le
  · obtain ⟨-, hwritten, hle, hphase⟩ := hinv hgoing
    have hclock : s.clock ≤ w + reportTime cfg d _ _ := hphase.clock_le
    exact restarted_of_early hs hwritten hle (by omega)

end

/-- Three seconds after boot Wi-Fi is up and the first attempt has failed. -/
def firstAttemptFailed : Net :=
  { netBegin configH (powerOn 0) with clock := 3000, linkUp := true, reports := [.attempt] }

example : exec (step configH) (netBegin configH (powerOn 0))
    [.link true false, .deliver, .tick 3000, .mqttDrop] = some firstAttemptFailed := rfl

/-- A broker that stays silent: retry number `i` fails `10 * i` milliseconds after its
start. -/
def runSilentBroker : List Act :=
  [.report, .netLoop, .tick 2000, .mqttTimer, .tick 10, .mqttDrop, .report,
    .tick 4000, .mqttTimer, .mqttDrop, .tick 20, .report, .netLoop,
    .tick 8000, .mqttTimer, .tick 30, .mqttDrop, .report,
    .tick 16000, .mqttTimer, .tick 40, .mqttDrop, .report,
    .tick 32000, .mqttTimer, .tick 50, .mqttDrop, .netLoop, .report]

theorem bouncesFirst_silentBroker :
    Along (chased configH) (BouncesFirst configH 0 65150) (firstAttemptFailed, ⟨0, 3000, 0, false⟩)
        runSilentBroker ∧
      ∃ y, exec (chased configH) (firstAttemptFailed, ⟨0, 3000, 0, false⟩) runSilentBroker =
        some y ∧ y.2.bounced = true := by
  have htime : reportTime configH (fun i => 10 * i) 3000 5 = 65150 := by decide
  refine ⟨htime ▸ bouncesFirst configH ticksExact_configH (fun i => 10 * i) 0
    firstAttemptFailed ?_ runSilentBroker (by decide), _, rfl, rfl⟩
  exact ⟨rfl, rfl, rfl, ⟨.attempt, rfl⟩, rfl, rfl, Nat.zero_le _⟩

end Net

end SentinelEdge
