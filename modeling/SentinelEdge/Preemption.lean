import SentinelEdge.Watchdog

/-!
# The watchdog under preemption

`netLoop` runs in the loop task, `onMqttConnect` in the task of the MQTT client,
and nothing synchronizes the two. Here `netLoop` is cut into the steps the
processor takes – the answer of `connected()`, then either the reading of `millis()`
and its store, or the two reads of the subtraction in either order and the
comparison – and the client's task may run between any two of them, with the clock
advancing at any moment (`SentinelEdge.Preempted.step`).

An atomic call is the special case in which nothing comes between
(`SentinelEdge.Preempted.exec_unpreempted`), so the steps are those of
`SentinelEdge.netLoop`.

## What goes wrong

The reading of `millis()` and the value of `lastMqttConnectMs` may belong to two
different moments. If the client connects between the two reads, the difference is
that of an old reading and a new stamp – about `2 ^ 32` when the stamp is newer by
a millisecond – or of a new reading and an old stamp. Either way the device can
reboot although no instant of the call found the connection
`OFFLINE_REBOOT_MS` old (`SentinelEdge.Preempted.not_noSpuriousReboot`).

## When it does not

A stamp written between the two reads does no harm if it is of the same
millisecond as the reading of `millis()`, and the stamp that `netLoop` itself writes
does none if it is written in the millisecond in which it was read
(`SentinelEdge.Preempted.Untorn`). In every run that keeps to this, a reboot is justified
(`SentinelEdge.Preempted.justified_of_untorn`): at some instant of the call the
latest write was `OFFLINE_REBOOT_MS` old. No bound on how often `netLoop` is
called is needed, since a wrapped difference never exceeds the true one.
-/

namespace SentinelEdge

open WrapClock LabelledRun

/-- Where the loop task stands in `netLoop`, with the operands it has read. -/
inductive LoopPc where
  /-- Outside `netLoop`. -/
  | idle
  /-- `connected()` was true; `millis()` is not read. -/
  | online
  /-- `connected()` was true and `millis()` is read; about to write
  `lastMqttConnectMs`. -/
  | storing (millis : UInt32)
  /-- `connected()` was false; neither operand is read. -/
  | offline
  /-- `millis()` is read, `lastMqttConnectMs` is not. -/
  | haveMillis (millis : UInt32)
  /-- `lastMqttConnectMs` is read, `millis()` is not. -/
  | haveLast (last : UInt32)
  /-- Both operands are read; about to compare. -/
  | haveBoth (millis last : UInt32)
  /-- `ESP.restart()` has been called. -/
  | restarted
  deriving DecidableEq

/-- The two tasks and what they share. -/
structure Preempted where
  /-- The true time since power-on, in milliseconds. -/
  clock : ℕ
  /-- Whether the client's state is `CONNECTED`. -/
  connected : Bool
  /-- The client has set its state and has not called `onMqttConnect` yet. -/
  callbackDue : Bool
  /-- `lastMqttConnectMs`. -/
  lastMqttConnectMs : UInt32
  /-- Where the loop task stands. -/
  pc : LoopPc

/-- A step of either task, or of the clock. -/
inductive PreemptedAct where
  /-- Time passes. -/
  | tick (ms : ℕ)
  /-- The client sets its state to `CONNECTED` (`_onConnAck`). -/
  | setConnected
  /-- The client calls `onMqttConnect`, which writes `lastMqttConnectMs`. -/
  | onMqttConnect
  /-- The client loses the connection. -/
  | drop
  /-- `netLoop` asks `connected()`. -/
  | check
  /-- `netLoop` reads `millis()`, to store it or for the subtraction. -/
  | readMillis
  /-- `netLoop` writes `lastMqttConnectMs`, having seen the client connected. -/
  | writeLast
  /-- `netLoop` reads `lastMqttConnectMs` for the subtraction. -/
  | readLast
  /-- `netLoop` compares the difference, and calls `ESP.restart()` if it is too
  large. -/
  | compare

namespace Preempted

/-- `netBegin` at true time `t₀`. -/
def netBegin (t₀ : ℕ) : Preempted := ⟨t₀, false, false, stamp t₀, .idle⟩

/-- One step of the loop task. -/
def loopStep (cfg : Tunables) (s : Preempted) : PreemptedAct → Option LoopPc
  | .check => if s.pc = .idle then some (if s.connected then .online else .offline) else none
  | .readMillis =>
    match s.pc with
    | .online => some (.storing (stamp s.clock))
    | .offline => some (.haveMillis (stamp s.clock))
    | .haveLast last => some (.haveBoth (stamp s.clock) last)
    | _ => none
  | .readLast =>
    match s.pc with
    | .offline => some (.haveLast s.lastMqttConnectMs)
    | .haveMillis millis => some (.haveBoth millis s.lastMqttConnectMs)
    | _ => none
  | .compare =>
    match s.pc with
    | .haveBoth millis last =>
      some (if millis - last ≥ cfg.offlineRebootMs then .restarted else .idle)
    | _ => none
  | _ => none

/-- One step of the whole. -/
def step (cfg : Tunables) (s : Preempted) (a : PreemptedAct) : Option Preempted :=
  if s.pc = .restarted then none
  else match a with
    | .tick ms => some { s with clock := s.clock + ms }
    | .setConnected =>
      if s.connected ∨ s.callbackDue then none
      else some { s with connected := true, callbackDue := true }
    | .onMqttConnect =>
      if s.callbackDue then
        some { s with callbackDue := false, lastMqttConnectMs := stamp s.clock }
      else none
    | .drop => if s.connected then some { s with connected := false } else none
    | .writeLast =>
      match s.pc with
      | .storing millis => some { s with pc := .idle, lastMqttConnectMs := millis }
      | _ => none
    | a => (loopStep cfg s a).map fun pc => { s with pc := pc }

/-- **What a step can do**, one case per step of a task. -/
inductive Step (cfg : Tunables) (s : Preempted) : PreemptedAct → Preempted → Prop where
  | tick (ms : ℕ) : Step cfg s (.tick ms) { s with clock := s.clock + ms }
  | setConnected : Step cfg s .setConnected { s with connected := true, callbackDue := true }
  | onMqttConnect : Step cfg s .onMqttConnect
      { s with callbackDue := false, lastMqttConnectMs := stamp s.clock }
  | drop : Step cfg s .drop { s with connected := false }
  | check (pc : LoopPc) (hpc : pc = .online ∨ pc = .offline) :
      Step cfg s .check { s with pc := pc }
  | millisOnline (hpc : s.pc = .online) :
      Step cfg s .readMillis { s with pc := .storing (stamp s.clock) }
  | writeLast (millis : UInt32) (hpc : s.pc = .storing millis) :
      Step cfg s .writeLast { s with pc := .idle, lastMqttConnectMs := millis }
  | millisFirst (hpc : s.pc = .offline) :
      Step cfg s .readMillis { s with pc := .haveMillis (stamp s.clock) }
  | millisSecond (last : UInt32) (hpc : s.pc = .haveLast last) :
      Step cfg s .readMillis { s with pc := .haveBoth (stamp s.clock) last }
  | lastFirst (hpc : s.pc = .offline) :
      Step cfg s .readLast { s with pc := .haveLast s.lastMqttConnectMs }
  | lastSecond (millis : UInt32) (hpc : s.pc = .haveMillis millis) :
      Step cfg s .readLast { s with pc := .haveBoth millis s.lastMqttConnectMs }
  | restart (millis last : UInt32) (hpc : s.pc = .haveBoth millis last)
      (hage : millis - last ≥ cfg.offlineRebootMs) :
      Step cfg s .compare { s with pc := .restarted }
  | carryOn : Step cfg s .compare { s with pc := .idle }

theorem step_cases {cfg : Tunables} {s s' : Preempted} {a : PreemptedAct}
    (h : step cfg s a = some s') : Step cfg s a s' := by
  obtain ⟨clock, connected, due, last, pc⟩ := s
  by_cases hrun : pc = .restarted
  · simp [step, hrun] at h
  · cases a with
    | tick ms =>
      obtain rfl : _ = s' := by simpa [step, hrun] using h
      exact .tick ms
    | setConnected =>
      obtain ⟨-, rfl⟩ : (connected = false ∧ due = false) ∧ _ = s' := by
        simpa [step, hrun] using h
      exact .setConnected
    | onMqttConnect =>
      obtain ⟨-, rfl⟩ : due = true ∧ _ = s' := by simpa [step, hrun] using h
      exact .onMqttConnect
    | drop =>
      obtain ⟨-, rfl⟩ : connected = true ∧ _ = s' := by simpa [step, hrun] using h
      exact .drop
    | check =>
      obtain ⟨-, rfl⟩ : pc = .idle ∧ _ = s' := by simpa [step, loopStep, hrun] using h
      refine .check _ ?_
      cases connected with
      | true => exact Or.inl rfl
      | false => exact Or.inr rfl
    | writeLast =>
      cases pc with
      | storing millis =>
        obtain rfl : _ = s' := by simpa [step] using h
        exact .writeLast millis rfl
      | _ => simp [step] at h
    | readMillis =>
      cases pc with
      | online =>
        obtain rfl : _ = s' := by simpa [step, loopStep] using h
        exact .millisOnline rfl
      | offline =>
        obtain rfl : _ = s' := by simpa [step, loopStep] using h
        exact .millisFirst rfl
      | haveLast last =>
        obtain rfl : _ = s' := by simpa [step, loopStep] using h
        exact .millisSecond last rfl
      | _ => simp [step, loopStep] at h
    | readLast =>
      cases pc with
      | offline =>
        obtain rfl : _ = s' := by simpa [step, loopStep] using h
        exact .lastFirst rfl
      | haveMillis millis =>
        obtain rfl : _ = s' := by simpa [step, loopStep] using h
        exact .lastSecond millis rfl
      | _ => simp [step, loopStep] at h
    | compare =>
      cases pc with
      | haveBoth millis last =>
        obtain rfl : _ = s' := by simpa [step, loopStep] using h
        by_cases hage : millis - last ≥ cfg.offlineRebootMs
        · rw [if_pos hage]
          exact .restart millis last rfl hage
        · rw [if_neg hage]
          exact .carryOn
      | _ => simp [step, loopStep] at h

/-- **A call that nothing preempts is the atomic one** with the client connected: it
stores what `SentinelEdge.netLoop` says. -/
theorem exec_unpreempted_online (cfg : Tunables) (s : Preempted) (hpc : s.pc = .idle)
    (hon : s.connected = true) :
    exec (step cfg) s [.check, .readMillis, .writeLast] =
      some { s with lastMqttConnectMs :=
        (netLoop cfg s.connected (stamp s.clock) s.lastMqttConnectMs).1 } := by
  obtain ⟨clock, connected, due, last, pc⟩ := s
  obtain rfl : pc = .idle := hpc
  obtain rfl : connected = true := hon
  simp [exec, step, loopStep]

/-- And with the client offline, whichever operand it reads first: the loop task
restarts the device exactly when `SentinelEdge.netLoop` says so. -/
theorem exec_unpreempted (cfg : Tunables) (s : Preempted) (hpc : s.pc = .idle)
    (hoff : s.connected = false) (first second : PreemptedAct)
    (horder : first = .readMillis ∧ second = .readLast ∨
      first = .readLast ∧ second = .readMillis) :
    exec (step cfg) s [.check, first, second, .compare] =
      some { s with pc :=
        if (netLoop cfg s.connected (stamp s.clock) s.lastMqttConnectMs).2 then .restarted
        else .idle } := by
  obtain ⟨clock, connected, due, last, pc⟩ := s
  obtain rfl : pc = .idle := hpc
  obtain rfl : connected = false := hoff
  rcases horder with ⟨rfl, rfl⟩ | ⟨rfl, rfl⟩ <;> simp [exec, step, loopStep]

/-- The past of a run, in true time. -/
structure Marks where
  /-- The latest write of `lastMqttConnectMs`. -/
  lastWrite : ℕ
  /-- The previous call of `netLoop`, or `netBegin` before the first. -/
  looked : ℕ
  /-- Some instant of the present call found the latest write
  `OFFLINE_REBOOT_MS` old. -/
  overdue : Bool
  /-- When the present call read `millis()`. -/
  sampled : ℕ
  /-- The write that left the value of `lastMqttConnectMs` the present call read. -/
  readWrite : ℕ
  /-- The first write after the present call read `lastMqttConnectMs`. -/
  lateWrite : Option ℕ

/-- When the latest write was made, after a step. -/
def Marks.written (h : Marks) (s : Preempted) : PreemptedAct → ℕ
  | .onMqttConnect => s.clock
  | .writeLast => s.clock
  | _ => h.lastWrite

/-- How a step moves the marks. -/
def Marks.upd (cfg : Tunables) (h : Marks) (s : Preempted) (a : PreemptedAct) (s' : Preempted) :
    Marks where
  lastWrite := h.written s a
  looked := if a matches .check then s.clock else h.looked
  overdue := (h.overdue && !(a matches .check)) ||
    decide (h.written s a + cfg.offlineRebootMs.toNat ≤ s'.clock)
  sampled := if a matches .readMillis then s.clock else h.sampled
  readWrite := if a matches .readLast then h.lastWrite else h.readWrite
  lateWrite :=
    if a matches .readLast then none
    else if a matches .onMqttConnect then some (h.lateWrite.getD s.clock)
    else h.lateWrite

/-- The two tasks with the marks. -/
abbrev marked (cfg : Tunables) : Preempted × Marks → PreemptedAct → Option (Preempted × Marks) :=
  observe (step cfg) (Marks.upd cfg)

/-- A run with its marks starts at `netBegin`. -/
def start (cfg : Tunables) (t₀ : ℕ) : Preempted × Marks :=
  (netBegin t₀, ⟨t₀, t₀, decide (cfg.offlineRebootMs.toNat = 0), t₀, t₀, none⟩)

/-- The calls come often enough. -/
def Paced (cfg : Tunables) (x : Preempted × Marks) (a : PreemptedAct) (_ : Preempted × Marks) :
    Prop :=
  a = .check → x.1.clock < x.2.looked + (2 ^ 32 - cfg.offlineRebootMs.toNat)

instance (cfg : Tunables) (x : Preempted × Marks) :
    ∀ (a : PreemptedAct) (y : Preempted × Marks), Decidable (Paced cfg x a y)
  | .check, _ => decidable_of_iff
      (x.1.clock < x.2.looked + (2 ^ 32 - cfg.offlineRebootMs.toNat)) ⟨fun h _ => h, fun h => h rfl⟩
  | .tick _, _ | .setConnected, _ | .onMqttConnect, _ | .drop, _ | .writeLast, _
  | .readMillis, _ | .readLast, _ | .compare, _ => isTrue (fun h => by cases h)

/-- **A reboot is justified**: if the step restarts the device, some instant of the
call found the latest write of `lastMqttConnectMs` at least `OFFLINE_REBOOT_MS`
of true time old. -/
def Justified (_ : Preempted × Marks) (_ : PreemptedAct) (y : Preempted × Marks) : Prop :=
  y.1.pc = .restarted → y.2.overdue = true

instance (x : Preempted × Marks) (a : PreemptedAct) (y : Preempted × Marks) :
    Decidable (Justified x a y) :=
  inferInstanceAs (Decidable (_ → _))

/-! ### The torn subtraction -/

/-- **No spurious reboot**: in every run in which the calls come often enough,
every reboot is justified. -/
def NoSpuriousReboot (cfg : Tunables) : Prop :=
  ∀ t₀ as, Along (marked cfg) (Paced cfg) (start cfg t₀) as →
    Along (marked cfg) Justified (start cfg t₀) as

/-- **A torn subtraction reboots the device**: the call has read `millis()` at `t`,
the stamp it is about to read was written later, and not later by so much that the
difference comes round. -/
theorem exec_torn (cfg : Tunables) (s : Preempted) (t w : ℕ)
    (hpc : s.pc = .haveMillis (stamp t)) (hlast : s.lastMqttConnectMs = stamp w)
    (hlate : t < w) (hnear : w + cfg.offlineRebootMs.toNat ≤ t + 2 ^ 32) :
    exec (step cfg) s [.readLast, .compare] = some { s with pc := .restarted } := by
  have hsub : (stamp t - stamp w).toNat = 2 ^ 32 - (w - t) ∨ w = t + 2 ^ 32 := by
    rcases Nat.lt_or_ge w (t + 2 ^ 32) with hlt | hge
    · exact Or.inl (toNat_stamp_sub_of_lt hlate hlt)
    · exact Or.inr (by omega)
  have hage : cfg.offlineRebootMs ≤ stamp t - stamp w := by
    rw [UInt32.le_iff_toNat_le]
    rcases hsub with hsub | hfull
    · omega
    · omega
  simp [exec, step, loopStep, hpc, hlast, hage]

/-- The client connects 10 s after boot, one millisecond after `netLoop` has read
`millis()` and before it reads `lastMqttConnectMs`. -/
def runConnectBetweenReads : List PreemptedAct :=
  [.tick 10000, .check, .readMillis, .tick 1, .setConnected, .onMqttConnect, .readLast, .compare]

/-- **The watchdog can reboot a device at the moment it connects.** -/
theorem not_noSpuriousReboot : ¬NoSpuriousReboot configH := fun h =>
  absurd (h 0 runConnectBetweenReads (by decide)) (by decide)

/-! ### Untorn accesses -/

/-- **No access is torn at a step**: a write of `lastMqttConnectMs` that comes between
the two reads of a call is of the same millisecond as the reading of `millis()`,
whichever of the two is read first; and the reading that a call stores is of the
millisecond in which it is stored. -/
def Untorn (x : Preempted × Marks) (a : PreemptedAct) (_ : Preempted × Marks) : Prop :=
  match x.1.pc, a with
  | .storing _, .writeLast => x.1.clock = x.2.sampled
  | .haveMillis _, .onMqttConnect => x.1.clock = x.2.sampled
  | .haveLast _, .readMillis => x.2.lateWrite = none ∨ x.2.lateWrite = some x.1.clock
  | _, _ => True

instance (x : Preempted × Marks) (a : PreemptedAct) (y : Preempted × Marks) :
    Decidable (Untorn x a y) :=
  match x, a with
  | ⟨⟨_, _, _, _, .storing _⟩, _⟩, .writeLast => inferInstanceAs (Decidable (_ = _))
  | ⟨⟨_, _, _, _, .haveMillis _⟩, _⟩, .onMqttConnect => inferInstanceAs (Decidable (_ = _))
  | ⟨⟨_, _, _, _, .haveLast _⟩, _⟩, .readMillis => inferInstanceAs (Decidable (_ ∨ _))
  | _, _ => by
    unfold Untorn
    split <;> infer_instance

/-- **What the operands of a call are worth**, by where the call stands. -/
def Operands (cfg : Tunables) (s : Preempted) (h : Marks) : LoopPc → Prop
  | .storing millis => millis = stamp h.sampled
  | .haveMillis millis =>
    millis = stamp h.sampled ∧ h.lastWrite ≤ h.sampled ∧ h.sampled ≤ s.clock
  | .haveLast last =>
    last = stamp h.readWrite ∧ h.readWrite ≤ s.clock ∧
      match h.lateWrite with
      | none => h.lastWrite = h.readWrite
      | some w => h.readWrite + cfg.offlineRebootMs.toNat ≤ w → h.overdue = true
  | .haveBoth millis last => millis - last ≥ cfg.offlineRebootMs → h.overdue = true
  | .restarted => h.overdue = true
  | _ => True

/-- **The invariant of untorn runs**: the variable is the stamp of the latest
write, an overdue write has been noticed, and the operands are worth what they
should be. -/
structure Inv (cfg : Tunables) (x : Preempted × Marks) : Prop where
  stamped : x.1.lastMqttConnectMs = stamp x.2.lastWrite
  lastWrite_le : x.2.lastWrite ≤ x.1.clock
  noticed : x.2.lastWrite + cfg.offlineRebootMs.toNat ≤ x.1.clock → x.2.overdue = true
  operands : Operands cfg x.1 x.2 x.1.pc

theorem inv_start (cfg : Tunables) (t₀ : ℕ) : Inv cfg (start cfg t₀) where
  stamped := rfl
  lastWrite_le := Nat.le_refl t₀
  noticed := fun h => by
    have : t₀ + cfg.offlineRebootMs.toNat ≤ t₀ := h
    simp only [start, decide_eq_true_eq]
    omega
  operands := trivial

/-- The reading of `millis()` is the older operand: an untorn difference that
reaches the threshold has been noticed. -/
theorem Inv.overdue_of_haveMillis {cfg : Tunables} {x : Preempted × Marks} (hI : Inv cfg x)
    {millis : UInt32} (hpc : x.1.pc = .haveMillis millis)
    (hage : millis - x.1.lastMqttConnectMs ≥ cfg.offlineRebootMs) : x.2.overdue = true := by
  obtain ⟨hmillis, hle, hsampled⟩ : Operands cfg x.1 x.2 (.haveMillis millis) := hpc ▸ hI.operands
  rw [hmillis, hI.stamped] at hage
  have := le_of_le_stamp_sub hle hage
  exact hI.noticed (by omega)

/-- The stamp is the older operand: likewise. -/
theorem Inv.overdue_of_haveLast {cfg : Tunables} {x : Preempted × Marks} (hI : Inv cfg x)
    {last : UInt32} (hpc : x.1.pc = .haveLast last)
    (huntorn : x.2.lateWrite = none ∨ x.2.lateWrite = some x.1.clock)
    (hage : stamp x.1.clock - last ≥ cfg.offlineRebootMs) : x.2.overdue = true := by
  obtain ⟨hlast, hread, hlate⟩ : Operands cfg x.1 x.2 (.haveLast last) := hpc ▸ hI.operands
  rw [hlast] at hage
  have hold := le_of_le_stamp_sub hread hage
  rcases huntorn with hnone | hsome
  · rw [hnone] at hlate
    exact hI.noticed (hlate ▸ hold)
  · rw [hsome] at hlate
    exact hlate hold

/-- A step notices a write that is overdue after it. -/
theorem noticed_upd {cfg : Tunables} {h : Marks} {s s' : Preempted} {a : PreemptedAct}
    (hold : (h.upd cfg s a s').lastWrite + cfg.offlineRebootMs.toNat ≤ s'.clock) :
    (h.upd cfg s a s').overdue = true := by
  have hw : h.written s a + cfg.offlineRebootMs.toNat ≤ s'.clock := hold
  simp [Marks.upd, hw]

/-- Within a call, what has been noticed stays noticed. -/
theorem overdue_upd {cfg : Tunables} {h : Marks} {s s' : Preempted} {a : PreemptedAct}
    (hcall : a ≠ .check) (hover : h.overdue = true) : (h.upd cfg s a s').overdue = true := by
  cases a with
  | check => exact absurd rfl hcall
  | _ => simp [Marks.upd, hover]

/-- A step that neither reads nor writes keeps the operands' worth. -/
theorem Operands.of_quiet {cfg : Tunables} {s s' : Preempted} {h : Marks} {a : PreemptedAct}
    {pc : LoopPc} (ho : Operands cfg s h pc) (hclock : s.clock ≤ s'.clock)
    (ha : a = .setConnected ∨ a = .drop ∨ ∃ ms, a = .tick ms) :
    Operands cfg s' (h.upd cfg s a s') pc := by
  have hmono : h.overdue = true → (h.upd cfg s a s').overdue = true :=
    overdue_upd (by rcases ha with rfl | rfl | ⟨ms, rfl⟩ <;> simp)
  obtain ⟨hlast, hsam, hread, hlate⟩ : (h.upd cfg s a s').lastWrite = h.lastWrite ∧
      (h.upd cfg s a s').sampled = h.sampled ∧ (h.upd cfg s a s').readWrite = h.readWrite ∧
      (h.upd cfg s a s').lateWrite = h.lateWrite := by
    rcases ha with rfl | rfl | ⟨ms, rfl⟩ <;> simp [Marks.upd, Marks.written]
  cases pc with
  | storing millis =>
    show millis = stamp (h.upd cfg s a s').sampled
    rw [hsam]
    exact ho
  | haveMillis millis =>
    obtain ⟨hval, hle, hnow⟩ : millis = stamp h.sampled ∧ h.lastWrite ≤ h.sampled ∧
        h.sampled ≤ s.clock := ho
    show millis = stamp (h.upd cfg s a s').sampled ∧ _ ∧ _
    rw [hlast, hsam]
    exact ⟨hval, hle, Nat.le_trans hnow hclock⟩
  | haveLast last =>
    obtain ⟨hval, hle, hworth⟩ := ho
    show last = stamp (h.upd cfg s a s').readWrite ∧ _ ∧ (match (h.upd cfg s a s').lateWrite with
      | none => _
      | some w => _)
    rw [hlast, hread, hlate]
    refine ⟨hval, Nat.le_trans hle hclock, ?_⟩
    cases hw : h.lateWrite with
    | none => rwa [hw] at hworth
    | some w =>
      rw [hw] at hworth
      exact fun hold => hmono (hworth hold)
  | haveBoth millis last => exact fun hage => hmono (ho hage)
  | restarted => exact hmono ho
  | _ => trivial

/-- **The client's write keeps the operands' worth** if the subtraction is not
torn by it. -/
theorem Operands.of_onMqttConnect {cfg : Tunables} {s : Preempted} {h : Marks}
    (hI : Inv cfg (s, h)) {s' : Preempted} (hclock : s'.clock = s.clock)
    (huntorn : ∀ millis, s.pc = .haveMillis millis → s.clock = h.sampled) :
    Operands cfg s' (h.upd cfg s .onMqttConnect s') s.pc := by
  have ho : Operands cfg s h s.pc := hI.operands
  have hmono : h.overdue = true → (h.upd cfg s .onMqttConnect s').overdue = true :=
    overdue_upd (by simp)
  cases hpc : s.pc with
  | storing millis =>
    rw [hpc] at ho
    exact ho
  | haveMillis millis =>
    rw [hpc] at ho
    obtain ⟨hmillis, -, hsampled⟩ := ho
    have hsame := huntorn millis hpc
    exact ⟨hmillis, Nat.le_of_eq hsame, by rw [hclock]; exact hsampled⟩
  | haveLast last =>
    rw [hpc] at ho
    obtain ⟨hlast, hread, hlate⟩ := ho
    refine ⟨hlast, by rw [hclock]; exact hread, ?_⟩
    cases hw : h.lateWrite with
    | none =>
      -- the first late write: the value read was the latest until now
      rw [hw] at hlate
      have hold : h.readWrite + cfg.offlineRebootMs.toNat ≤ s.clock → h.overdue = true :=
        fun hle => hI.noticed (by rw [hlate]; exact hle)
      simpa [Marks.upd, hw] using fun hle => Or.inl (hold hle)
    | some w =>
      rw [hw] at hlate
      simpa [Marks.upd, hw] using fun hle => Or.inl (hlate hle)
  | haveBoth millis last =>
    rw [hpc] at ho
    exact fun hage => hmono (ho hage)
  | restarted =>
    rw [hpc] at ho
    exact hmono ho
  | _ => trivial

/-- **The step lemma**: an untorn step keeps the invariant, and the reboot it may
be is justified. -/
theorem inv_step (cfg : Tunables) (s : Preempted) (h : Marks) (a : PreemptedAct) (s' : Preempted)
    (hI : Inv cfg (s, h)) (hs : step cfg s a = some s')
    (huntorn : Untorn (s, h) a (s', h.upd cfg s a s')) :
    Inv cfg (s', h.upd cfg s a s') ∧ Justified (s, h) a (s', h.upd cfg s a s') := by
  have hstamp : s.lastMqttConnectMs = stamp h.lastWrite := hI.stamped
  have hle : h.lastWrite ≤ s.clock := hI.lastWrite_le
  have hops : Operands cfg s h s.pc := hI.operands
  suffices hinv : Inv cfg (s', h.upd cfg s a s') by
    refine ⟨hinv, fun hpc => ?_⟩
    have hfinal : Operands cfg s' (h.upd cfg s a s') s'.pc := hinv.operands
    rw [show s'.pc = .restarted from hpc] at hfinal
    exact hfinal
  cases step_cases hs with
  | tick ms =>
    exact ⟨hstamp, Nat.le_trans hle (Nat.le_add_right _ _), noticed_upd,
      hops.of_quiet (Nat.le_add_right _ _) (Or.inr (Or.inr ⟨ms, rfl⟩))⟩
  | setConnected =>
    exact ⟨hstamp, hle, noticed_upd, hops.of_quiet (Nat.le_refl _) (Or.inl rfl)⟩
  | drop =>
    exact ⟨hstamp, hle, noticed_upd, hops.of_quiet (Nat.le_refl _) (Or.inr (Or.inl rfl))⟩
  | onMqttConnect =>
    refine ⟨rfl, Nat.le_refl _, noticed_upd, Operands.of_onMqttConnect hI rfl ?_⟩
    intro millis hpc
    simpa [Untorn, hpc] using huntorn
  | check pc hpc =>
    refine ⟨hstamp, hle, noticed_upd, ?_⟩
    rcases hpc with rfl | rfl <;> trivial
  | millisOnline hpc => exact ⟨hstamp, hle, noticed_upd, rfl⟩
  | writeLast millis hpc =>
    -- the stamp that is stored is that of this very millisecond
    have hnow : s.clock = h.sampled := by simpa [Untorn, hpc] using huntorn
    rw [hpc] at hops
    refine ⟨?_, Nat.le_refl _, noticed_upd, trivial⟩
    show millis = stamp s.clock
    rw [hnow]
    exact hops
  | millisFirst hpc => exact ⟨hstamp, hle, noticed_upd, rfl, hle, Nat.le_refl _⟩
  | millisSecond last hpc =>
    refine ⟨hstamp, hle, noticed_upd, fun hage => overdue_upd (by simp) ?_⟩
    exact hI.overdue_of_haveLast hpc (by simpa [Untorn, hpc] using huntorn) hage
  | lastFirst hpc => exact ⟨hstamp, hle, noticed_upd, hstamp, hle, rfl⟩
  | lastSecond millis hpc =>
    refine ⟨hstamp, hle, noticed_upd, fun hage => overdue_upd (by simp) ?_⟩
    exact hI.overdue_of_haveMillis hpc hage
  | restart millis last hpc hage =>
    refine ⟨hstamp, hle, noticed_upd, overdue_upd (by simp) ?_⟩
    rw [hpc] at hops
    exact hops hage
  | carryOn => exact ⟨hstamp, hle, noticed_upd, trivial⟩

/-- **Untorn accesses reboot only a device that is offline for long enough**: in every
run in which no write comes between the two reads of a call except in the millisecond
of the reading of `millis()`, and no store comes later than its reading, a reboot means
that at some instant of the call `OFFLINE_REBOOT_MS` of true time had passed since the
latest write of `lastMqttConnectMs`. -/
theorem justified_of_untorn (cfg : Tunables) (t₀ : ℕ) (as : List PreemptedAct)
    (huntorn : Along (marked cfg) Untorn (start cfg t₀) as) :
    Along (marked cfg) Justified (start cfg t₀) as :=
  along_observe_of_inv (inv_step cfg) (inv_start cfg t₀) huntorn

/-- A device that has been offline for 5 min, and whose client connects just
before the comparison: it reboots, with good reason. -/
def runConnectTooLate : List PreemptedAct :=
  [.tick 300000, .check, .readLast, .readMillis, .setConnected, .onMqttConnect, .compare]

theorem justified_connectTooLate :
    (exec (step configH) (netBegin 0) runConnectTooLate).map (·.pc) = some .restarted ∧
      Along (marked configH) Justified (start configH 0) runConnectTooLate :=
  ⟨by decide, justified_of_untorn configH 0 _ (by decide)⟩

end Preempted

end SentinelEdge
