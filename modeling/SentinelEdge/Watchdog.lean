import SentinelEdge.Config
import SentinelEdge.Library.Run
import SentinelEdge.Library.WrapClock

/-!
# The offline watchdog

`netLoop` of `src/net.cpp` is called on every pass of the main loop and reboots
the device when MQTT has been away for too long. It owns no timer: it keeps the
last good moment in `lastMqttConnectMs`, a 32-bit reading of `millis()`, and
subtracts it from the present reading.

This file takes the three writers of that variable – `netBegin`, `onMqttConnect`
and `netLoop` itself – as atomic steps on a true clock that never wraps
(`SentinelEdge.Watchdog.step`). What `connected()` answers is left to the
environment, so every pattern of connects, losses and observations is a run.

The watchdog is **exact** (`SentinelEdge.Watchdog.restartsExactly_of_paced`): it
reboots at the first call that finds the device offline for `OFFLINE_REBOOT_MS` of
true time, and at no other, whatever the counter shows. The 32-bit difference
alone would not say so. What carries it is that every call leaves a stamp that is
either young or renewed (`SentinelEdge.Watchdog.Inv`), so that at the next call, if
that is not delayed by a whole turn of the counter, the stamp is still less than
one turn old.
-/

namespace SentinelEdge

open WrapClock LabelledRun

/-- `netLoop`, as a function of what it reads: the answer of `connected()`, the
reading of `millis()` and `lastMqttConnectMs`. It yields the new
`lastMqttConnectMs` and whether it calls `ESP.restart()`. -/
def netLoop (cfg : Tunables) (connected : Bool) (millis lastMqttConnectMs : UInt32) :
    UInt32 × Bool :=
  if connected then (millis, false)
  else (lastMqttConnectMs, decide (millis - lastMqttConnectMs ≥ cfg.offlineRebootMs))

@[simp] theorem netLoop_connected (cfg : Tunables) (millis last : UInt32) :
    netLoop cfg true millis last = (millis, false) := rfl

@[simp] theorem netLoop_offline (cfg : Tunables) (millis last : UInt32) :
    netLoop cfg false millis last =
      (last, decide (millis - last ≥ cfg.offlineRebootMs)) := rfl

/-- What the watchdog works on. -/
structure Watchdog where
  /-- The true time since power-on, in milliseconds. -/
  clock : ℕ
  /-- `lastMqttConnectMs`. -/
  lastMqttConnectMs : UInt32
  /-- `ESP.restart()` has been called; nothing runs any more. -/
  restarted : Bool

/-- A step of the watchdog's world. -/
inductive WatchdogAct where
  /-- Time passes. -/
  | tick (ms : ℕ)
  /-- The client reports a connection. -/
  | onMqttConnect
  /-- The main loop calls `netLoop`, and `connected()` answers as given. -/
  | netLoop (connected : Bool)

namespace Watchdog

/-- `netBegin` at true time `t₀`, as far as the watchdog is concerned. -/
def netBegin (t₀ : ℕ) : Watchdog := ⟨t₀, stamp t₀, false⟩

/-- One step. -/
def step (cfg : Tunables) (s : Watchdog) (a : WatchdogAct) : Option Watchdog :=
  if s.restarted then none
  else match a with
    | .tick ms => some { s with clock := s.clock + ms }
    | .onMqttConnect => some { s with lastMqttConnectMs := stamp s.clock }
    | .netLoop connected =>
      let r := SentinelEdge.netLoop cfg connected (stamp s.clock) s.lastMqttConnectMs
      some { s with lastMqttConnectMs := r.1, restarted := r.2 }

/-- The past of a run, in true time. -/
structure Marks where
  /-- The latest of `netBegin`, the last `onMqttConnect`, and the last `netLoop`
  call that saw the client connected. -/
  since : ℕ
  /-- The previous `netLoop` call, or `netBegin` before the first. -/
  looked : ℕ

/-- How a step moves the marks. -/
def Marks.upd (h : Marks) (s : Watchdog) : WatchdogAct → Watchdog → Marks
  | .tick _, _ => h
  | .onMqttConnect, _ => { h with since := s.clock }
  | .netLoop true, _ => ⟨s.clock, s.clock⟩
  | .netLoop false, _ => { h with looked := s.clock }

/-- A run with its marks starts at `netBegin`. -/
def start (t₀ : ℕ) : Watchdog × Marks := (netBegin t₀, ⟨t₀, t₀⟩)

/-- The watchdog with its marks. -/
abbrev marked (cfg : Tunables) : Watchdog × Marks → WatchdogAct → Option (Watchdog × Marks) :=
  observe (step cfg) Marks.upd

/-- **The calls come often enough**: less than `2 ^ 32 - OFFLINE_REBOOT_MS`
milliseconds after the previous one. -/
def Paced (cfg : Tunables) (x : Watchdog × Marks) : WatchdogAct → Watchdog × Marks → Prop
  | .netLoop _, _ => x.1.clock < x.2.looked + (2 ^ 32 - cfg.offlineRebootMs.toNat)
  | _, _ => True

instance (cfg : Tunables) (x : Watchdog × Marks) :
    ∀ (a : WatchdogAct) (y : Watchdog × Marks), Decidable (Paced cfg x a y)
  | .netLoop _, _ => inferInstanceAs (Decidable (_ < _))
  | .tick _, _ => inferInstanceAs (Decidable True)
  | .onMqttConnect, _ => inferInstanceAs (Decidable True)

/-- **The watchdog is exact at a step**: a `netLoop` call restarts the device if
and only if the client is not connected at the call and `OFFLINE_REBOOT_MS` of
true time has passed since the mark. -/
def RestartsExactly (cfg : Tunables) (x : Watchdog × Marks) :
    WatchdogAct → Watchdog × Marks → Prop
  | .netLoop connected, y =>
    y.1.restarted = true ↔
      connected = false ∧ x.2.since + cfg.offlineRebootMs.toNat ≤ x.1.clock
  | _, _ => True

/-- **What every call leaves behind**: the variable is the stamp of the mark, and
the mark was fresh at the previous call. -/
structure Inv (cfg : Tunables) (x : Watchdog × Marks) : Prop where
  stamped : x.1.lastMqttConnectMs = stamp x.2.since
  since_le : x.2.since ≤ x.1.clock
  looked_le : x.2.looked ≤ x.1.clock
  fresh : x.1.restarted = false → Fresh cfg.offlineRebootMs.toNat x.2.since x.2.looked

theorem inv_start (cfg : Tunables) (t₀ : ℕ) : Inv cfg (start t₀) where
  stamped := rfl
  since_le := Nat.le_refl t₀
  looked_le := Nat.le_refl t₀
  fresh := fun _ => fresh_self _ t₀

/-- Where the invariant holds, the measured age of the stamp compares with the
threshold as the true age does. -/
theorem Inv.measured_iff {cfg : Tunables} {x : Watchdog × Marks} (hI : Inv cfg x)
    (hrun : x.1.restarted = false)
    (hpaced : x.1.clock < x.2.looked + (2 ^ 32 - cfg.offlineRebootMs.toNat)) :
    stamp x.1.clock - x.1.lastMqttConnectMs ≥ cfg.offlineRebootMs ↔
      x.2.since + cfg.offlineRebootMs.toNat ≤ x.1.clock := by
  rw [hI.stamped]
  exact le_stamp_sub_iff hI.since_le ((hI.fresh hrun).lt_turn hpaced)

/-- **The step lemma**: a call that does not come too late is exact, and every
step keeps the invariant. -/
theorem inv_step (cfg : Tunables) (s : Watchdog) (h : Marks) (a : WatchdogAct) (s' : Watchdog)
    (hI : Inv cfg (s, h)) (hs : step cfg s a = some s')
    (hpaced : Paced cfg (s, h) a (s', h.upd s a s')) :
    Inv cfg (s', h.upd s a s') ∧ RestartsExactly cfg (s, h) a (s', h.upd s a s') := by
  obtain ⟨clock, last, restarted⟩ := s
  cases restarted with
  | true => exact absurd hs (by simp [step])
  | false =>
    have hstamp : last = stamp h.since := hI.stamped
    have hsince : h.since ≤ clock := hI.since_le
    have hlooked : h.looked ≤ clock := hI.looked_le
    have hfresh := hI.fresh rfl
    cases a with
    | tick ms =>
      obtain rfl := Option.some.inj hs
      exact ⟨⟨hstamp, by simp only [Marks.upd]; omega, by simp only [Marks.upd]; omega,
        fun _ => hfresh⟩, trivial⟩
    | onMqttConnect =>
      obtain rfl := Option.some.inj hs
      exact ⟨⟨rfl, Nat.le_refl clock, hlooked, fun _ => Or.inr hlooked⟩, trivial⟩
    | netLoop connected =>
      obtain rfl := Option.some.inj hs
      have hage := hI.measured_iff rfl hpaced
      cases connected with
      | true =>
        refine ⟨⟨rfl, Nat.le_refl clock, Nat.le_refl clock, fun _ => fresh_self _ clock⟩, ?_⟩
        simp [RestartsExactly]
      | false =>
        refine ⟨⟨hstamp, hsince, Nat.le_refl clock, fun hrun => Or.inl ?_⟩, ?_⟩
        · -- the call did not restart, so the mark is young
          have hyoung : ¬h.since + cfg.offlineRebootMs.toNat ≤ clock := fun hold =>
            of_decide_eq_false hrun (hage.mpr hold)
          exact Nat.lt_of_not_le hyoung
        · simpa [RestartsExactly] using hage

/-- **The offline watchdog is exact for any uptime.** In every run whose `netLoop`
calls come often enough, every call restarts the device if and only if the client
is not connected and `OFFLINE_REBOOT_MS` of true time has passed since the latest
of `netBegin`, the last `onMqttConnect` and the last call that saw the client
connected. -/
theorem restartsExactly_of_paced (cfg : Tunables) (t₀ : ℕ) (as : List WatchdogAct)
    (hpaced : Along (marked cfg) (Paced cfg) (start t₀) as) :
    Along (marked cfg) (RestartsExactly cfg) (start t₀) as :=
  along_observe_of_inv (inv_step cfg) (inv_start cfg t₀) hpaced

/-- A run across a wrap of the counter: a device that boots 10 s before the
49.7-day mark and stays offline reboots 5 min after boot, not earlier. -/
def runAcrossWrap : List WatchdogAct :=
  [.tick 20000, .netLoop false, .tick 279999, .netLoop false, .tick 1, .netLoop false]

theorem restartsExactly_across_wrap :
    exec (step configH) (netBegin (2 ^ 32 - 10000)) runAcrossWrap ≠ none ∧
      Along (marked configH) (RestartsExactly configH) (start (2 ^ 32 - 10000)) runAcrossWrap :=
  ⟨by decide, restartsExactly_of_paced configH _ _ (by decide)⟩

end Watchdog

end SentinelEdge
