import SentinelEdge.Net

/-!
# The Wi-Fi retry timer

Two rules for `wifiReconnectTimer`, each the mirror of something the code does take
care of, and for each the exact condition under which it holds.

* **It should not be armed on a live link.** `onWifiEvent` stops the MQTT timer when
  it hears that the link is down, but does not stop the Wi-Fi timer when it hears
  that the link is up. If the link comes back by itself while a retry is pending,
  the retry restarts Wi-Fi under a live link
  (`SentinelEdge.Net.not_quietWhileLive`). The rule holds along a run exactly when
  every `GOT_IP` is delivered with no retry pending
  (`SentinelEdge.Net.quietWhileLive_iff`).
* **A pending retry should not wait longer than the cap.** Every single delay is
  within `RECONNECT_MAX_MS`, but each `STA_DISCONNECTED` starts the countdown anew,
  so a stream of them postpones the retry past it
  (`SentinelEdge.Net.not_runsWithinCap`). Along a run in which the timer fires on
  time, the rule holds exactly when every `STA_DISCONNECTED` that finds a retry
  pending comes early enough for its own delay to end within the cap
  (`SentinelEdge.Net.withinCap_iff`).
-/

namespace SentinelEdge

open LabelledRun

namespace Net

/-! ### The link as `onWifiEvent` knows it -/

/-- Whether `GOT_IP` has been handled since `STA_DISCONNECTED` last was. -/
def liveUpd (live : Bool) (s : Net) (a : Act) (_ : Net) : Bool :=
  if Delivers s a .gotIp then true
  else if Delivers s a .staDisconnected then false
  else live

/-- The node, and whether the link is live as far as it has been told. -/
abbrev withLive (cfg : Tunables) : Net × Bool → Act → Option (Net × Bool) :=
  observe (step cfg) liveUpd

/-- **No Wi-Fi restart on a live link**: from the handling of `GOT_IP` to that of
`STA_DISCONNECTED` the Wi-Fi timer is not armed, and does not expire. -/
def QuietWhileLive (x : Net × Bool) (a : Act) (y : Net × Bool) : Prop :=
  (y.2 = true → y.1.wifiReconnectTimer.armed = false) ∧ (x.2 = true → a ≠ .wifiTimer)

/-- `GOT_IP` is delivered with no Wi-Fi retry pending. -/
def GotIpUnarmed (x : Net × Bool) (a : Act) (_ : Net × Bool) : Prop :=
  Delivers x.1 a .gotIp → x.1.wifiReconnectTimer.armed = false

instance (x : Net × Bool) (a : Act) (y : Net × Bool) : Decidable (QuietWhileLive x a y) :=
  inferInstanceAs (Decidable (_ ∧ _))

/-- What holds of a run in which every `GOT_IP` was delivered with no retry
pending. -/
def LiveInv (x : Net × Bool) : Prop := x.2 = true → x.1.wifiReconnectTimer.armed = false

/-- A step at which `GOT_IP`, if it is delivered, finds no retry pending keeps the
timer unarmed on a live link: only `STA_DISCONNECTED` arms it, and that ends the
liveness. -/
theorem liveInv_step (cfg : Tunables) (s : Net) (live : Bool) (a : Act) (s' : Net)
    (hinv : LiveInv (s, live)) (hs : step cfg s a = some s')
    (hgot : GotIpUnarmed (s, live) a (s', liveUpd live s a s')) :
    LiveInv (s', liveUpd live s a s') := by
  cases (step_cases hs).2 with
  -- the one step at which the condition is needed
  | gotIp es he => exact fun _ => hgot ⟨rfl, by simp [he]⟩
  | staDisconnected es he =>
    intro hlive
    simp [liveUpd, Delivers, he] at hlive
  | deliverOther es he =>
    intro hlive
    exact hinv (by simpa [liveUpd, Delivers, he] using hlive)
  | wifiTimer harmed => exact fun _ => xTimerStop_armed _
  | _ =>
    intro hlive
    exact hinv (by simpa [liveUpd, Delivers] using hlive)

/-- At a single step, the rule holds if and only if `GOT_IP`, if it is delivered,
finds no retry pending. -/
theorem quietWhileLive_step (cfg : Tunables) (s : Net) (live : Bool) (a : Act) (s' : Net)
    (hinv : LiveInv (s, live)) (hs : step cfg s a = some s') :
    GotIpUnarmed (s, live) a (s', liveUpd live s a s') ↔
      QuietWhileLive (s, live) a (s', liveUpd live s a s') := by
  constructor
  · intro hgot
    refine ⟨liveInv_step cfg s live a s' hinv hs hgot, ?_⟩
    rintro hlive rfl
    -- an expiry needs the timer armed, and on a live link it is not
    cases (step_cases hs).2 with
    | wifiTimer harmed => exact absurd harmed (by rw [hinv hlive]; simp)
  · rintro ⟨hquiet, -⟩ ⟨rfl, he⟩
    have hlive : liveUpd live s .deliver s' = true := by simp [liveUpd, Delivers, he]
    have hunarmed : s'.wifiReconnectTimer.armed = false := hquiet hlive
    cases (step_cases hs).2 with
    | gotIp es he' => exact hunarmed
    | staDisconnected es he' => simp [he'] at he
    | deliverOther es he' => simp [he'] at he

/-- **The exact condition for the first rule**: along a run, no Wi-Fi retry is
pending or made on a live link if and only if every `GOT_IP` is delivered with none
pending. -/
theorem quietWhileLive_iff (cfg : Tunables) (t₀ : ℕ) (as : List Act) :
    Along (withLive cfg) QuietWhileLive (netBegin cfg (powerOn t₀), false) as ↔
      Along (withLive cfg) GotIpUnarmed (netBegin cfg (powerOn t₀), false) as :=
  (along_observe_iff_of_inv (J := LiveInv) (liveInv_step cfg) (quietWhileLive_step cfg)
    (fun h => absurd h Bool.false_ne_true) as).symm

/-- The link is lost and comes back by itself before the retry is due; the retry is
made all the same. -/
def runLinkReturns : List Act :=
  [.link true true, .deliver, .link false false, .deliver, .tick 500, .link true false, .deliver,
    .tick 1500, .wifiTimer]

/-- **The first rule does not always hold**: a link that comes back by itself is
restarted. -/
theorem not_quietWhileLive :
    ¬∀ t₀ as, Along (withLive configH) QuietWhileLive (netBegin configH (powerOn t₀), false) as :=
  fun h => absurd (h 0 runLinkReturns) (by decide)

/-! ### How long a retry is pending -/

/-- The time at which the pending retry was first armed, if one is pending and no
`GOT_IP` has been handled since. -/
def pendingUpd (pending : Option ℕ) (s : Net) (a : Act) (_ : Net) : Option ℕ :=
  if Delivers s a .staDisconnected then some (pending.getD s.clock)
  else if Delivers s a .gotIp ∨ a = .wifiTimer then none
  else pending

/-- The node, and since when a retry is pending. -/
abbrev withPending (cfg : Tunables) : Net × Option ℕ → Act → Option (Net × Option ℕ) :=
  observe (step cfg) pendingUpd

/-- **The retry is made within the cap**: time does not pass `RECONNECT_MAX_MS`
after the arming while the retry is still pending. -/
def RunsWithinCap (cfg : Tunables) (_ : Net × Option ℕ) (_ : Act) (y : Net × Option ℕ) : Prop :=
  ∀ t ∈ y.2, y.1.clock ≤ t + cfg.reconnectMaxMs.toNat

/-- **The retry is not postponed past the cap**: the pending timer is to expire
within `RECONNECT_MAX_MS` of the first arming. -/
def NeverPostponed (cfg : Tunables) (_ : Net × Option ℕ) (_ : Act) (y : Net × Option ℕ) : Prop :=
  ∀ t ∈ y.2, ∀ dl ∈ y.1.wifiReconnectTimer.expiry, dl ≤ t + cfg.reconnectMaxMs.toNat

/-- A `STA_DISCONNECTED` that finds a retry pending comes early enough: the delay it
asks for ends within the cap. -/
def EarlyEnough (cfg : Tunables) (x : Net × Option ℕ) (a : Act) (_ : Net × Option ℕ) : Prop :=
  Delivers x.1 a .staDisconnected →
    ∀ t ∈ x.2,
      x.1.clock + (backoffMs cfg x.1.wifiAttempts).toNat ≤ t + cfg.reconnectMaxMs.toNat

instance (cfg : Tunables) (x : Net × Option ℕ) (a : Act) (y : Net × Option ℕ) :
    Decidable (RunsWithinCap cfg x a y) :=
  inferInstanceAs (Decidable (∀ t ∈ y.2, y.1.clock ≤ t + cfg.reconnectMaxMs.toNat))

instance (cfg : Tunables) (x : Net × Option ℕ) (a : Act) (y : Net × Option ℕ) :
    Decidable (EarlyEnough cfg x a y) :=
  inferInstanceAs (Decidable (_ → ∀ t ∈ x.2, _ ≤ t + cfg.reconnectMaxMs.toNat))

/-- **A pending retry has a deadline**, within the cap, that time has not passed. -/
def PendingInv (cfg : Tunables) (x : Net × Option ℕ) : Prop :=
  ∀ t ∈ x.2, ∃ dl, x.1.wifiReconnectTimer.expiry = some dl ∧
    dl ≤ t + cfg.reconnectMaxMs.toNat ∧ x.1.clock ≤ dl

section

variable {cfg : Tunables} (hticks : TicksExact cfg) (s : Net) (pending : Option ℕ) (a : Act)
  (s' : Net)

include hticks

theorem pendingInv_step (hinv : PendingInv cfg (s, pending)) (hs : step cfg s a = some s')
    (htime : WifiOnTime s a s')
    (hearly : EarlyEnough cfg (s, pending) a (s', pendingUpd pending s a s')) :
    PendingInv cfg (s', pendingUpd pending s a s') := by
  cases (step_cases hs).2 with
  | tick ms =>
    intro t ht
    obtain ⟨dl, hdl, hcap, hclock⟩ := hinv t (by simpa [pendingUpd, Delivers] using ht)
    have hlater : s.clock + ms ≤ max s.clock dl := (htime dl hdl).2
    exact ⟨dl, hdl, hcap, Nat.max_eq_right hclock ▸ hlater⟩
  | gotIp es he =>
    intro t ht
    simp [pendingUpd, Delivers, he] at ht
  | staDisconnected es he =>
    intro t ht
    refine ⟨_, scheduleRetry_expiry hticks s.clock _ s.wifiAttempts, ?_, Nat.le_add_right _ _⟩
    -- a first arming is within the cap by itself, a later one by the condition
    cases pending with
    | none =>
      obtain rfl : s.clock = t := by simpa [pendingUpd, Delivers, he] using ht
      exact Nat.add_le_add_left (backoffLaw_le cfg _) _
    | some t' =>
      obtain rfl : t' = t := by simpa [pendingUpd, Delivers, he] using ht
      rw [← backoffMs_toNat]
      exact hearly ⟨rfl, by simp [he]⟩ t' rfl
  | deliverOther es he =>
    intro t ht
    exact hinv t (by simpa [pendingUpd, Delivers, he] using ht)
  | wifiTimer harmed =>
    intro t ht
    simp [pendingUpd, Delivers] at ht
  | _ =>
    intro t ht
    exact hinv t (by simpa [pendingUpd, Delivers] using ht)

/-- At a single step on time, the rule holds if and only if a `STA_DISCONNECTED`, if
it is delivered to a pending retry, comes early enough. -/
theorem withinCap_step (hinv : PendingInv cfg (s, pending)) (hs : step cfg s a = some s')
    (htime : WifiOnTime s a s') :
    EarlyEnough cfg (s, pending) a (s', pendingUpd pending s a s') ↔
      RunsWithinCap cfg (s, pending) a (s', pendingUpd pending s a s') ∧
        NeverPostponed cfg (s, pending) a (s', pendingUpd pending s a s') := by
  constructor
  · intro hearly
    have hinv' := pendingInv_step hticks s pending a s' hinv hs htime hearly
    refine ⟨fun t ht => ?_, fun t ht dl hdl => ?_⟩
    · obtain ⟨dl, -, hcap, hclock⟩ := hinv' t ht
      exact Nat.le_trans hclock hcap
    · obtain ⟨dl', hdl', hcap, -⟩ := hinv' t ht
      obtain rfl : dl' = dl := Option.some.inj (hdl'.symm.trans hdl)
      exact hcap
  · rintro ⟨-, hnever⟩ ⟨rfl, he⟩ t ht
    obtain rfl : pending = some t := ht
    have hkept : pendingUpd (some t) s .deliver s' = some t := by simp [pendingUpd, Delivers, he]
    cases (step_cases hs).2 with
    | gotIp es he' => simp [he'] at he
    | deliverOther es he' => simp [he'] at he
    | staDisconnected es he' =>
      rw [backoffMs_toNat]
      exact hnever t hkept _ (scheduleRetry_expiry hticks s.clock _ s.wifiAttempts)

end

/-- **The exact condition for the second rule**: along a run in which the timer
fires on time, a pending retry is made within `RECONNECT_MAX_MS` of its first arming,
and never postponed past that, if and only if every `STA_DISCONNECTED` that finds it
pending comes early enough. -/
theorem withinCap_iff (cfg : Tunables) (hticks : TicksExact cfg) (t₀ : ℕ) (as : List Act)
    (htime : Along (withPending cfg) (fun x a y => WifiOnTime x.1 a y.1)
      (netBegin cfg (powerOn t₀), none) as) :
    Along (withPending cfg) (fun x a y => RunsWithinCap cfg x a y ∧ NeverPostponed cfg x a y)
        (netBegin cfg (powerOn t₀), none) as ↔
      Along (withPending cfg) (EarlyEnough cfg) (netBegin cfg (powerOn t₀), none) as :=
  (along_observe_iff_of_inv_along (J := PendingInv cfg) (pendingInv_step hticks)
    (withinCap_step hticks) (fun _ ht => absurd ht (by simp)) htime).symm

/-- The link is lost, and a reconnect of the core fails half a second later: the
retry is postponed, but not past the cap. -/
def runTwoLosses : List Act :=
  [.link false true, .deliver, .tick 500, .link false false, .deliver, .tick 4000, .wifiTimer]

theorem withinCap_twoLosses :
    Along (withPending configH)
      (fun x a y => RunsWithinCap configH x a y ∧ NeverPostponed configH x a y)
      (netBegin configH (powerOn 0), none) runTwoLosses :=
  (withinCap_iff configH ticksExact_configH 0 runTwoLosses (by decide)).mpr (by decide)

/-- The link is lost, and every reconnect of the core fails one millisecond before
the retry is due: the fifth postpones it past the cap. -/
def runSteadyLoss : List Act :=
  [.link false true, .deliver, .tick 1999, .link false false, .deliver,
    .tick 3999, .link false false, .deliver, .tick 7999, .link false false, .deliver,
    .tick 15999, .link false false, .deliver, .tick 32000, .wifiTimer]

/-- **The second rule does not always hold**: on time, and still the retry is made
later than `RECONNECT_MAX_MS` after it was armed. -/
theorem not_runsWithinCap :
    ¬∀ t₀ as,
      Along (withPending configH) (fun x a y => WifiOnTime x.1 a y.1)
          (netBegin configH (powerOn t₀), none) as →
        Along (withPending configH) (RunsWithinCap configH)
          (netBegin configH (powerOn t₀), none) as :=
  fun h => absurd (h 0 runSteadyLoss (by decide)) (by decide)

end Net

end SentinelEdge
