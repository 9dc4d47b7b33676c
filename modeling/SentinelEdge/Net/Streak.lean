import SentinelEdge.Net

/-!
# The streaks of retries

The two retry timers share one function, `scheduleRetry`, and each brings a counter of
its own, which is passed by reference and reset somewhere else: `wifiAttempts` when
`GOT_IP` is handled, `mqttAttempts` in `onMqttConnect` and at a bounce. A **streak** is
what `scheduleRetry` has given to a timer since its counter was last reset.

Over whole runs, in any order of the events, the delays are the ones that the backoff
law promises (`SentinelEdge.Net.followsLaw`): the `k`-th delay of a streak, counted
from zero, is the base doubled `k` times and capped, so that a streak never gets
shorter delays as it goes on; computing it wraps nowhere; and what happens to one timer
never shows in the streak of the other. The streaks of `mqttReconnectTimer` are short,
too, because a report that finds the counter at the threshold bounces the radio instead.
A delay is what the timer is really given, through `pdMS_TO_TICKS`, so the law asks that
the macro is exact up to the cap.

What a step can do to a timer and its counter is said once for both of them, by
`SentinelEdge.Net.Retry.Moves`. What carries the law through a run is that the streak is
the list of the delays for `0`, `1`, … up to the counter
(`SentinelEdge.Net.StreakInv`).
-/

namespace SentinelEdge

open LabelledRun

namespace Net

/-! ### The two retry timers -/

/-- A retry timer, with the counter that goes with it. -/
inductive Retry where
  /-- `wifiReconnectTimer`, with `wifiAttempts`. -/
  | wifi
  /-- `mqttReconnectTimer`, with `mqttAttempts`. -/
  | mqtt
  deriving DecidableEq

namespace Retry

/-- The timer. -/
def timer : Retry → Net → OneShot
  | .wifi => wifiReconnectTimer
  | .mqtt => mqttReconnectTimer

/-- The counter. -/
def attempts : Retry → Net → ℕ
  | .wifi => wifiAttempts
  | .mqtt => mqttAttempts

/-- **The step schedules a retry**: `STA_DISCONNECTED` is delivered, or a disconnect
report is handled with Wi-Fi up and without a bounce. -/
def Schedules : Retry → Net → Act → Net → Prop
  | .wifi, s, a, _ => Delivers s a .staDisconnected
  | .mqtt, s, a, s' =>
    a = .report ∧ s.linkUp = true ∧ s.reports ≠ [] ∧ s'.disconnects = s.disconnects

/-- **The step resets the counter**: `GOT_IP` is delivered, or MQTT connects or the
radio is bounced. -/
def Resets : Retry → Net → Act → Net → Prop
  | .wifi, s, a, _ => Delivers s a .gotIp
  | .mqtt, s, a, s' => a = .mqttConnect ∨ s'.disconnects ≠ s.disconnects

instance : ∀ (r : Retry) (s : Net) (a : Act) (s' : Net), Decidable (r.Schedules s a s')
  | .wifi, s, a, _ => inferInstanceAs (Decidable (Delivers s a .staDisconnected))
  | .mqtt, _, _, _ => inferInstanceAs (Decidable (_ ∧ _ ∧ _ ∧ _))

instance : ∀ (r : Retry) (s : Net) (a : Act) (s' : Net), Decidable (r.Resets s a s')
  | .wifi, s, a, _ => inferInstanceAs (Decidable (Delivers s a .gotIp))
  | .mqtt, _, _, _ => inferInstanceAs (Decidable (_ ∨ _))

/-! ### What a step can do to a retry timer -/

/-- **What a step can do to a retry timer and its counter**: hand both to
`scheduleRetry`, reset the counter, or neither; and only `scheduleRetry` arms the
timer. -/
inductive Moves (cfg : Tunables) (r : Retry) (s : Net) (a : Act) (s' : Net) : Prop where
  | schedules (hsched : r.Schedules s a s') (hreset : ¬r.Resets s a s')
      (htimer : r.timer s' = (scheduleRetry cfg s'.clock (r.timer s) (r.attempts s)).1)
      (hcounted : r.attempts s' = r.attempts s + 1)
      (hfew : r = .mqtt → r.attempts s < cfg.mqttBounceWifiAfterAttempts.toNat)
  | resets (hreset : r.Resets s a s') (hsched : ¬r.Schedules s a s')
      (htimer : r.timer s' = r.timer s) (hzero : r.attempts s' = 0)
  | rests (hsched : ¬r.Schedules s a s') (hreset : ¬r.Resets s a s')
      (htimer : r.timer s' = r.timer s ∨ r.timer s' = xTimerStop (r.timer s))
      (hkept : r.attempts s' = r.attempts s)

theorem moves_wifi {cfg : Tunables} {s s' : Net} {a : Act} (h : step cfg s a = some s') :
    Moves cfg .wifi s a s' := by
  cases (step_cases h).2 with
  | gotIp es he =>
    exact .resets ⟨rfl, by simp [he]⟩ (by simp [Schedules, Delivers, he]) rfl rfl
  | staDisconnected es he =>
    exact .schedules ⟨rfl, by simp [he]⟩ (by simp [Resets, Delivers, he]) rfl rfl
      fun hmqtt => by cases hmqtt
  | deliverOther es he =>
    exact .rests (by simp [Schedules, Delivers, he]) (by simp [Resets, Delivers, he])
      (Or.inl rfl) rfl
  | wifiTimer harmed =>
    exact .rests (by simp [Schedules, Delivers]) (by simp [Resets, Delivers]) (Or.inr rfl) rfl
  | _ =>
    exact .rests (by simp [Schedules, Delivers]) (by simp [Resets, Delivers]) (Or.inl rfl) rfl

theorem moves_mqtt {cfg : Tunables} {s s' : Net} {a : Act} (h : step cfg s a = some s') :
    Moves cfg .mqtt s a s' := by
  cases (step_cases h).2 with
  -- the event that the link is down stops the timer, and leaves the counter alone
  | staDisconnected es he =>
    exact .rests (by simp [Schedules]) (by simp [Resets]) (Or.inr rfl) rfl
  | mqttTimer harmed =>
    exact .rests (by simp [Schedules]) (by simp [Resets]) (Or.inr rfl) rfl
  | mqttConnect hclient => exact .resets (Or.inl rfl) (by simp [Schedules]) rfl rfl
  | reportDown e rs hr hlink =>
    exact .rests (by simp [Schedules, hlink]) (by simp [Resets]) (Or.inl rfl) rfl
  | reportBounce e rs hr hlink hmany =>
    exact .resets (Or.inr (Nat.succ_ne_self _)) (by simp [Schedules]) rfl rfl
  | reportRetry e rs hr hlink hfew =>
    exact .schedules ⟨rfl, hlink, by simp [hr], rfl⟩ (by simp [Resets]) rfl rfl
      fun _ => hfew
  | _ =>
    exact .rests (by simp [Schedules]) (by simp [Resets, linkChange, Net.netLoop]) (Or.inl rfl)
      rfl

theorem moves {cfg : Tunables} {s s' : Net} {a : Act} (h : step cfg s a = some s') :
    ∀ r, Moves cfg r s a s'
  | .wifi => moves_wifi h
  | .mqtt => moves_mqtt h

/-- What a step that schedules a retry does. -/
theorem Moves.of_schedules {cfg : Tunables} {r : Retry} {s s' : Net} {a : Act}
    (h : Moves cfg r s a s') (hsched : r.Schedules s a s') :
    r.timer s' = (scheduleRetry cfg s'.clock (r.timer s) (r.attempts s)).1 ∧
      (r = .mqtt → r.attempts s < cfg.mqttBounceWifiAfterAttempts.toNat) := by
  cases h with
  | schedules _ hreset htimer hcounted hfew => exact ⟨htimer, hfew⟩
  | resets hreset hnot => exact absurd hsched hnot
  | rests hnot => exact absurd hsched hnot

/-- What any other step does to the timer. -/
theorem Moves.of_not_schedules {cfg : Tunables} {r : Retry} {s s' : Net} {a : Act}
    (h : Moves cfg r s a s') (hnot : ¬r.Schedules s a s') :
    r.timer s' = r.timer s ∨ r.timer s' = xTimerStop (r.timer s) := by
  cases h with
  | schedules hsched => exact absurd hsched hnot
  | resets hreset _ htimer hzero => exact Or.inl htimer
  | rests _ hreset htimer hkept => exact htimer

/-- What a step that moves neither does to the counter. -/
theorem Moves.attempts_eq {cfg : Tunables} {r : Retry} {s s' : Net} {a : Act}
    (h : Moves cfg r s a s') (hrests : ¬(r.Schedules s a s' ∨ r.Resets s a s')) :
    r.attempts s' = r.attempts s := by
  cases h with
  | schedules hsched => exact absurd (Or.inl hsched) hrests
  | resets hreset => exact absurd (Or.inr hreset) hrests
  | rests _ _ htimer hkept => exact hkept

/-- The counters have no step in common: the Wi-Fi counter moves when an event is
delivered, the MQTT counter when the client connects or reports. -/
theorem moves_disjoint {cfg : Tunables} {s s' : Net} {a : Act} (h : step cfg s a = some s')
    {r r' : Retry} (hne : r ≠ r') (hmoves : r.Schedules s a s' ∨ r.Resets s a s') :
    ¬(r'.Schedules s a s' ∨ r'.Resets s a s') := by
  have hwifi : Retry.wifi.Schedules s a s' ∨ Retry.wifi.Resets s a s' → a = .deliver := by
    rintro (⟨ha, -⟩ | ⟨ha, -⟩) <;> exact ha
  have hmqtt : Retry.mqtt.Schedules s a s' ∨ Retry.mqtt.Resets s a s' → a ≠ .deliver := by
    rintro (⟨rfl, -⟩ | rfl | hbounce)
    · exact fun hc => by cases hc
    · exact fun hc => by cases hc
    · obtain ⟨rfl, -⟩ := (disconnects_ne_iff h).mp hbounce
      exact fun hc => by cases hc
  cases r <;> cases r'
  · exact absurd rfl hne
  · exact fun hmoves' => hmqtt hmoves' (hwifi hmoves)
  · exact fun hmoves' => hmqtt hmoves (hwifi hmoves')
  · exact absurd rfl hne

end Retry

/-! ### Streaks -/

/-- The streak of each timer: the delays that `scheduleRetry` has given to it since its
counter was last reset, oldest first. -/
abbrev Streaks := Retry → List ℕ

/-- How a step moves the streaks. -/
def Streaks.upd (cfg : Tunables) (x : Streaks) (s : Net) (a : Act) (s' : Net) : Streaks := fun r =>
  if r.Schedules s a s' then x r ++ [(r.timer s').delay cfg]
  else if r.Resets s a s' then []
  else x r

/-- The node with its streaks. -/
abbrev withStreaks (cfg : Tunables) : Net × Streaks → Act → Option (Net × Streaks) :=
  observe (step cfg) (Streaks.upd cfg)

/-- A run with its streaks starts after `netBegin`. -/
def startStreaks (cfg : Tunables) (t₀ : ℕ) : Net × Streaks :=
  (netBegin cfg (powerOn t₀), fun _ => [])

/-- **The backoff law at a step.** -/
structure FollowsLaw (cfg : Tunables) (x : Net × Streaks) (a : Act) (y : Net × Streaks) :
    Prop where
  /-- A delay is the base doubled once for each retry of the streak so far, and capped;
  the timer expires after that delay. -/
  delay : ∀ r : Retry, r.Schedules x.1 a y.1 →
    (r.timer y.1).delay cfg =
        min (cfg.reconnectBaseMs.toNat * 2 ^ (x.2 r).length) cfg.reconnectMaxMs.toNat ∧
      (r.timer y.1).expiry = some (y.1.clock + (r.timer y.1).delay cfg)
  /-- `scheduleRetry` is the only one to give a timer a delay, or to arm it. -/
  only : ∀ r : Retry, ¬r.Schedules x.1 a y.1 →
    (r.timer y.1).period = (r.timer x.1).period ∧
      ((r.timer y.1).expiry = (r.timer x.1).expiry ∨ (r.timer y.1).expiry = none)
  /-- Nothing wraps in `backoffMs`. -/
  noWrap : ∀ r : Retry, r.Schedules x.1 a y.1 →
    DoublesExactly cfg.reconnectMaxMs (r.attempts x.1) cfg.reconnectBaseMs
  /-- The delays of a streak do not decrease. -/
  sorted : ∀ r : Retry, (y.2 r).Pairwise (· ≤ ·)
  /-- What schedules a retry of one timer, or resets its counter, leaves the counter and
  the streak of the other alone. -/
  apart : ∀ r r' : Retry, r ≠ r' → r.Schedules x.1 a y.1 ∨ r.Resets x.1 a y.1 →
    r'.attempts y.1 = r'.attempts x.1 ∧ y.2 r' = x.2 r'
  /-- An MQTT retry comes before the streak is as long as the threshold. -/
  few : Retry.mqtt.Schedules x.1 a y.1 →
    (x.2 .mqtt).length < cfg.mqttBounceWifiAfterAttempts.toNat

/-- **A streak is the list of the delays up to the counter.** -/
def StreakInv (cfg : Tunables) (x : Net × Streaks) : Prop :=
  ∀ r : Retry, x.2 r = (List.range (r.attempts x.1)).map (backoffLaw cfg)

theorem streakInv_start (cfg : Tunables) (t₀ : ℕ) : StreakInv cfg (startStreaks cfg t₀)
  | .wifi => rfl
  | .mqtt => rfl

section

variable {cfg : Tunables} {x : Net × Streaks}

theorem StreakInv.length_eq (hinv : StreakInv cfg x) (r : Retry) :
    (x.2 r).length = r.attempts x.1 := by
  rw [hinv r, List.length_map, List.length_range]

/-- The delays of a streak do not decrease. -/
theorem StreakInv.sorted (hinv : StreakInv cfg x) (r : Retry) : (x.2 r).Pairwise (· ≤ ·) := by
  rw [hinv r]
  exact List.pairwise_map.mpr (List.pairwise_le_range.imp fun hle => backoffLaw_mono cfg hle)

end

/-- Every step keeps the streaks what they are. -/
theorem streakInv_step {cfg : Tunables} (hticks : TicksExact cfg) (s : Net) (x : Streaks)
    (a : Act) (s' : Net) (hinv : StreakInv cfg (s, x)) (hs : step cfg s a = some s') :
    StreakInv cfg (s', x.upd cfg s a s') := by
  intro r
  have hstreak : x r = (List.range (r.attempts s)).map (backoffLaw cfg) := hinv r
  show x.upd cfg s a s' r = (List.range (r.attempts s')).map (backoffLaw cfg)
  rw [Streaks.upd]
  cases Retry.moves hs r with
  | schedules hsched hreset htimer hcounted hfew =>
    have hdelay : (r.timer s').delay cfg = backoffLaw cfg (r.attempts s) := by
      rw [htimer]
      exact scheduleRetry_delay hticks s'.clock (r.timer s) (r.attempts s)
    rw [if_pos hsched, hdelay, hcounted, hstreak, List.range_succ, List.map_append]
    rfl
  | resets hreset hsched htimer hzero =>
    rw [if_neg hsched, if_pos hreset, hzero]
    rfl
  | rests hsched hreset htimer hkept =>
    rw [if_neg hsched, if_neg hreset, hkept, hstreak]

/-- **The step lemma**: from streaks that are what they should be, a step follows the
law. -/
theorem followsLaw_step {cfg : Tunables} (hticks : TicksExact cfg) (s : Net) (x : Streaks)
    (a : Act) (s' : Net) (hinv : StreakInv cfg (s, x)) (hs : step cfg s a = some s') :
    FollowsLaw cfg (s, x) a (s', x.upd cfg s a s') where
  delay := fun r hsched => by
    obtain ⟨htimer, -⟩ := (Retry.moves hs r).of_schedules hsched
    have hlength : (x r).length = r.attempts s := hinv.length_eq r
    show (r.timer s').delay cfg = backoffLaw cfg (x r).length ∧
      (r.timer s').expiry = some (s'.clock + (r.timer s').delay cfg)
    rw [htimer, hlength]
    exact ⟨scheduleRetry_delay hticks s'.clock (r.timer s) (r.attempts s),
      scheduleRetry_expiry_delay cfg s'.clock (r.timer s) (r.attempts s)⟩
  only := fun r hnot => by
    show (r.timer s').period = _ ∧ ((r.timer s').expiry = _ ∨ (r.timer s').expiry = none)
    rcases (Retry.moves hs r).of_not_schedules hnot with htimer | htimer
    · rw [htimer]
      exact ⟨rfl, Or.inl rfl⟩
    · rw [htimer]
      exact ⟨rfl, Or.inr rfl⟩
  noWrap := fun r _ => doublesExactly cfg.reconnectMax_lt _ cfg.reconnectBase_le_max
  sorted := (streakInv_step hticks s x a s' hinv hs).sorted
  apart := fun r r' hne hmoves => by
    have hrests := Retry.moves_disjoint hs hne hmoves
    obtain ⟨hsched, hreset⟩ := not_or.mp hrests
    refine ⟨(Retry.moves hs r').attempts_eq hrests, ?_⟩
    show x.upd cfg s a s' r' = x r'
    rw [Streaks.upd, if_neg hsched, if_neg hreset]
  few := fun hsched => by
    obtain ⟨-, hfew⟩ := (Retry.moves hs .mqtt).of_schedules hsched
    have hlength : (x .mqtt).length = Retry.mqtt.attempts s := hinv.length_eq .mqtt
    show (x .mqtt).length < _
    rw [hlength]
    exact hfew rfl

/-- **The backoff law over runs.** Whatever the tunables and in whatever order the Wi-Fi
and MQTT events come, every delay that `scheduleRetry` gives to a timer is the base
doubled once for each retry of its streak so far, and capped, as an exact integer. -/
theorem followsLaw (cfg : Tunables) (hticks : TicksExact cfg) (t₀ : ℕ) (as : List Act) :
    Along (withStreaks cfg) (FollowsLaw cfg) (startStreaks cfg t₀) as :=
  along_observe_of_step (streakInv_step hticks) (followsLaw_step hticks)
    (streakInv_start cfg t₀) as

/-- The link is lost twice and comes back; then an attempt fails, the radio is bounced at
the threshold, and the next streak of each timer begins. -/
def runTwoStreaks : List Act :=
  [.link false true, .deliver, .tick 2000, .wifiTimer, .link false false, .deliver, .tick 4000,
    .wifiTimer, .link true false, .deliver] ++
    (List.replicate 5 [.mqttDrop, .report, .tick 60000, .mqttTimer]).flatten ++
    [.mqttDrop, .report, .deliver, .tick 2000, .wifiTimer, .link true false, .deliver,
      .mqttDrop, .report]

theorem followsLaw_twoStreaks :
    Along (withStreaks configH) (FollowsLaw configH) (startStreaks configH 0) runTwoStreaks ∧
      ∃ y, exec (withStreaks configH) (startStreaks configH 0) runTwoStreaks = some y ∧
        y.2 .wifi = [] ∧ y.2 .mqtt = [2000] :=
  ⟨followsLaw configH ticksExact_configH 0 runTwoStreaks, _, rfl, rfl, rfl⟩

end Net

end SentinelEdge
