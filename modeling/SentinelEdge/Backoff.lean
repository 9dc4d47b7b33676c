import Mathlib.Order.Monotone.Basic
import SentinelEdge.Config

/-!
# Retry timers and the backoff

The two one-shot FreeRTOS timers of `src/net.cpp` and the function that arms them,
`SentinelEdge.scheduleRetry`, with the delay that
`SentinelEdge.backoffMs` computes.

The delay is meant to be the base doubled per failed attempt and capped,
`SentinelEdge.backoffLaw`, a function of natural numbers. The code computes it in
32 bits, doubling in a loop that leaves as soon as the cap is reached. The loop only
ever doubles the base or a delay *below* the cap, and the cap is below `2 ^ 31`; so no
doubling wraps (`SentinelEdge.doublesExactly`), and the two agree for every number of
attempts (`SentinelEdge.backoffMs_toNat`).

The timers count ticks, and `pdMS_TO_TICKS` makes ticks of a delay. It is a macro of
FreeRTOS, and on a 32-bit machine it wraps for delays that are long enough; that it does
not up to the cap is `SentinelEdge.TicksExact`. Time is the true time in milliseconds.
-/

namespace SentinelEdge

/-! ### The delay -/

/-- The loop of `backoffMs`: `n` rounds are left and the delay so far is
`delayMs`. -/
def backoffLoop (reconnectMaxMs : UInt32) : ℕ → UInt32 → UInt32
  | 0, delayMs => delayMs
  | n + 1, delayMs =>
    let delayMs := delayMs * 2
    if delayMs ≥ reconnectMaxMs then reconnectMaxMs else backoffLoop reconnectMaxMs n delayMs

/-- `backoffMs`: doubles the base delay per failed attempt, capped. The count of
attempts is an `int` in the source, whose overflow at `2 ^ 31` is undefined; here
it is a natural number. -/
def backoffMs (cfg : Tunables) (attempts : ℕ) : UInt32 :=
  backoffLoop cfg.reconnectMaxMs attempts cfg.reconnectBaseMs

/-- **What the delay is for**: the base doubled `k` times, capped. -/
def backoffLaw (cfg : Tunables) (k : ℕ) : ℕ :=
  min (cfg.reconnectBaseMs.toNat * 2 ^ k) cfg.reconnectMaxMs.toNat

/-- Doubling a delay below `2 ^ 31` does not wrap. -/
theorem toNat_mul_two {d : UInt32} (h : d.toNat < 2 ^ 31) : (d * 2).toNat = d.toNat * 2 := by
  rw [UInt32.toNat_mul]
  exact Nat.mod_eq_of_lt (by change d.toNat * 2 < 2 ^ 32; omega)

/-- **No doubling wraps** while the loop of `backoffMs` runs its `n` rounds from the
delay `delayMs`: every product it computes is the one of the integers. -/
def DoublesExactly (reconnectMaxMs : UInt32) : ℕ → UInt32 → Prop
  | 0, _ => True
  | n + 1, delayMs =>
    (delayMs * 2).toNat = delayMs.toNat * 2 ∧
      -- the loop goes on below the cap only
      (¬delayMs * 2 ≥ reconnectMaxMs → DoublesExactly reconnectMaxMs n (delayMs * 2))

/-- The loop only doubles a delay that is not above the cap, and the cap is below
`2 ^ 31`. -/
theorem doublesExactly {cap : UInt32} (hcap : cap.toNat < 2 ^ 31) (n : ℕ) {d : UInt32}
    (hd : d.toNat ≤ cap.toNat) : DoublesExactly cap n d := by
  induction n generalizing d with
  | zero => trivial
  | succ n ih =>
    refine ⟨toNat_mul_two (by omega), fun hmax => ih ?_⟩
    have hlt : (d * 2).toNat < cap.toNat :=
      Nat.lt_of_not_le fun hc => hmax (UInt32.le_iff_toNat_le.mpr hc)
    exact Nat.le_of_lt hlt

/-- The loop computes the capped doubling of the delay it starts from, if that is
not above the cap. -/
theorem backoffLoop_toNat {cap : UInt32} (hcap : cap.toNat < 2 ^ 31) (n : ℕ) {d : UInt32}
    (hd : d.toNat ≤ cap.toNat) :
    (backoffLoop cap n d).toNat = min (d.toNat * 2 ^ n) cap.toNat := by
  induction n generalizing d with
  | zero => simp [backoffLoop, hd]
  | succ n ih =>
    have hdouble : (d * 2).toNat = d.toNat * 2 := toNat_mul_two (by omega)
    have hpow : d.toNat * 2 ^ (n + 1) = d.toNat * 2 * 2 ^ n := by
      rw [Nat.pow_succ, Nat.mul_comm (2 ^ n), ← Nat.mul_assoc]
    rw [backoffLoop]
    -- the loop leaves at the cap, and the doublings it skips would stay above it
    by_cases hmax : d * 2 ≥ cap
    · have hcaple : cap.toNat ≤ d.toNat * 2 := hdouble ▸ UInt32.le_iff_toNat_le.mp hmax
      have hle : d.toNat * 2 ≤ d.toNat * 2 * 2 ^ n :=
        Nat.le_mul_of_pos_right _ (Nat.two_pow_pos n)
      rw [if_pos hmax, hpow]
      omega
    · have hlt : d.toNat * 2 < cap.toNat := by
        rw [← hdouble]
        exact Nat.lt_of_not_le fun hc => hmax (UInt32.le_iff_toNat_le.mpr hc)
      rw [if_neg hmax, ih (by omega), hdouble, hpow]

/-- **The code computes the backoff law**, exactly and for every number of
attempts. -/
theorem backoffMs_toNat (cfg : Tunables) (k : ℕ) : (backoffMs cfg k).toNat = backoffLaw cfg k :=
  backoffLoop_toNat cfg.reconnectMax_lt k cfg.reconnectBase_le_max

/-- One attempt more never makes the delay shorter. -/
theorem backoffLaw_mono (cfg : Tunables) : Monotone (backoffLaw cfg) := by
  intro j k hjk
  have hpow : 2 ^ j ≤ 2 ^ k := Nat.pow_le_pow_right (by omega) hjk
  have hmul : cfg.reconnectBaseMs.toNat * 2 ^ j ≤ cfg.reconnectBaseMs.toNat * 2 ^ k :=
    Nat.mul_le_mul_left _ hpow
  rw [backoffLaw, backoffLaw]
  omega

/-- No delay is above the cap. -/
theorem backoffLaw_le (cfg : Tunables) (k : ℕ) : backoffLaw cfg k ≤ cfg.reconnectMaxMs.toNat :=
  Nat.min_le_right _ _

/-! ### The timers -/

/-- A one-shot FreeRTOS timer: the period it was last given and, while it is
armed, the instant at which it expires. -/
structure OneShot where
  /-- The period the timer was last given, in ticks. -/
  period : UInt32
  /-- The true time at which the timer expires; `none` while it is not armed. -/
  expiry : Option ℕ
  deriving DecidableEq

/-- How long the period of the timer is, in milliseconds. -/
def OneShot.delay (cfg : Tunables) (timer : OneShot) : ℕ :=
  timer.period.toNat * cfg.portTickPeriodMs

/-- `xTimerCreate`: a timer is created dormant. -/
def xTimerCreate (period : UInt32) : OneShot := ⟨period, none⟩

/-- `xTimerStart`: starts the timer from now, armed or not. -/
def xTimerStart (cfg : Tunables) (timer : OneShot) (now : ℕ) : OneShot :=
  { timer with expiry := some (now + timer.delay cfg) }

/-- `xTimerChangePeriod`: gives the timer a new period and starts it from now. -/
def xTimerChangePeriod (cfg : Tunables) (timer : OneShot) (period : UInt32) (now : ℕ) : OneShot :=
  xTimerStart cfg { timer with period := period } now

/-- `xTimerStop`. -/
def xTimerStop (timer : OneShot) : OneShot := { timer with expiry := none }

/-- Whether the timer is armed. -/
def OneShot.armed (timer : OneShot) : Bool := timer.expiry.isSome

@[simp] theorem xTimerStop_expiry (timer : OneShot) : (xTimerStop timer).expiry = none := rfl

@[simp] theorem xTimerStop_armed (timer : OneShot) : (xTimerStop timer).armed = false := rfl

/-- `scheduleRetry`: arms the timer with the delay for the attempts made so far,
and counts one more. -/
def scheduleRetry (cfg : Tunables) (now : ℕ) (timer : OneShot) (attempts : ℕ) : OneShot × ℕ :=
  let delayMs := backoffMs cfg attempts
  let timer := xTimerChangePeriod cfg timer (cfg.pdMsToTicks delayMs) now
  (xTimerStart cfg timer now, attempts + 1)

/-- **What a retry gives to the timer**: a period that lasts as long as the backoff for the
attempts made so far. -/
theorem scheduleRetry_delay {cfg : Tunables} (hticks : TicksExact cfg) (now : ℕ)
    (timer : OneShot) (attempts : ℕ) :
    (scheduleRetry cfg now timer attempts).1.delay cfg = backoffLaw cfg attempts := by
  rw [← backoffMs_toNat]
  refine hticks (backoffMs cfg attempts) (UInt32.le_iff_toNat_le.mpr ?_)
  rw [backoffMs_toNat]
  exact backoffLaw_le cfg attempts

/-- The timer runs for its period, whatever it was doing before. -/
theorem scheduleRetry_expiry_delay (cfg : Tunables) (now : ℕ) (timer : OneShot)
    (attempts : ℕ) : (scheduleRetry cfg now timer attempts).1.expiry =
      some (now + (scheduleRetry cfg now timer attempts).1.delay cfg) := rfl

/-- **What a retry schedules**: the timer expires after the backoff for the
attempts made so far. -/
theorem scheduleRetry_expiry {cfg : Tunables} (hticks : TicksExact cfg) (now : ℕ)
    (timer : OneShot) (attempts : ℕ) :
    (scheduleRetry cfg now timer attempts).1.expiry = some (now + backoffLaw cfg attempts) := by
  rw [scheduleRetry_expiry_delay, scheduleRetry_delay hticks]

@[simp] theorem scheduleRetry_armed (cfg : Tunables) (now : ℕ) (timer : OneShot) (attempts : ℕ) :
    (scheduleRetry cfg now timer attempts).1.armed = true := rfl

@[simp] theorem scheduleRetry_attempts (cfg : Tunables) (now : ℕ) (timer : OneShot)
    (attempts : ℕ) : (scheduleRetry cfg now timer attempts).2 = attempts + 1 := rfl

end SentinelEdge
