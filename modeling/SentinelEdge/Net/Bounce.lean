import SentinelEdge.Net

/-!
# When the radio is bounced

`onMqttDisconnect` is meant to bounce Wi-Fi after
`MQTT_BOUNCE_WIFI_AFTER_ATTEMPTS` failed attempts in a row. What it counts in
`mqttAttempts` is not failed attempts, though: it counts the disconnect reports
handled with Wi-Fi up since the last successful connect or the last bounce – a
*row* of reports – and it compares before it counts. The report of a lost session
is one of them (`SentinelEdge.Net.Row`).

So `mqttAttempts` is the number of failed attempts of the row plus the number of
other reports in it (`SentinelEdge.Net.RowInv`), and the radio is bounced at a
report when that sum has *already* reached the threshold
(`SentinelEdge.Net.disconnects_ne_iff`). In a row that a lost session opened, the
two deviations cancel, and the bounce comes with the failed attempt that completes
the number. In a row that a `GOT_IP` opened there is nothing to cancel, and the
bounce comes one failed attempt late (`SentinelEdge.Net.not_bouncesExactly`).

`SentinelEdge.Net.bouncesExactly_iff` is the exact condition on a run.
-/

namespace SentinelEdge

open LabelledRun

namespace Net

/-- **A row**: what was reported, with Wi-Fi up, since the last successful connect
or the last bounce. -/
structure Row where
  /-- The failed attempts. -/
  failed : ℕ
  /-- The other reports: of a lost session, or of an attempt that a successful
  connect overtook before it was reported. -/
  others : ℕ
  /-- The drops of before the last successful connect that are still unreported. -/
  stale : ℕ

/-- The step reports, with Wi-Fi up, a failed attempt: no connect succeeded since it
began. -/
def Fails (s : Net) (h : Row) (a : Act) : Prop :=
  a = .report ∧ s.linkUp = true ∧ s.reports.head? = some .attempt ∧ h.stale = 0

/-- The step reports, with Wi-Fi up, anything else. -/
def ReportsOther (s : Net) (h : Row) (a : Act) : Prop :=
  a = .report ∧ s.linkUp = true ∧ s.reports ≠ [] ∧
    ¬(s.reports.head? = some .attempt ∧ h.stale = 0)

instance (s : Net) (h : Row) (a : Act) : Decidable (Fails s h a) :=
  inferInstanceAs (Decidable (_ ∧ _))

/-- How a step moves the row. -/
def Row.upd (h : Row) (s : Net) (a : Act) (s' : Net) : Row :=
  match a with
  | .mqttConnect => ⟨0, 0, s.reports.length⟩
  | .report =>
    let stale := h.stale - 1
    if s'.disconnects ≠ s.disconnects then ⟨0, 0, stale⟩
    else if s.linkUp = false then { h with stale := stale }
    else if s.reports.head? = some .attempt ∧ h.stale = 0 then
      { h with failed := h.failed + 1 }
    else { h with others := h.others + 1, stale := stale }
  | _ => h

/-- The node with its row. -/
abbrev counted (cfg : Tunables) : Net × Row → Act → Option (Net × Row) :=
  observe (step cfg) Row.upd

/-- A run with its row starts after `netBegin`. -/
def startRow (cfg : Tunables) (t₀ : ℕ) : Net × Row := (netBegin cfg (powerOn t₀), ⟨0, 0, 0⟩)

/-- **The radio is bounced exactly when it should be**: at a step that reports a
failed attempt, and completes `MQTT_BOUNCE_WIFI_AFTER_ATTEMPTS` of them in a
row. -/
def BouncesExactly (cfg : Tunables) (x : Net × Row) (a : Act) (y : Net × Row) : Prop :=
  y.1.disconnects ≠ x.1.disconnects ↔
    Fails x.1 x.2 a ∧ x.2.failed + 1 = cfg.mqttBounceWifiAfterAttempts.toNat

/-- **A row that reaches the threshold holds another report**: when its last failed
attempt is reported something else has been reported in the row, and no other
step reports to a row that is already as long as the threshold. -/
def OtherInRow (cfg : Tunables) (x : Net × Row) (a : Act) (_ : Net × Row) : Prop :=
  (Fails x.1 x.2 a → x.2.failed + 1 = cfg.mqttBounceWifiAfterAttempts.toNat →
      1 ≤ x.2.others) ∧
    (Fails x.1 x.2 a → x.2.failed + 1 ≠ cfg.mqttBounceWifiAfterAttempts.toNat →
      x.2.failed + x.2.others < cfg.mqttBounceWifiAfterAttempts.toNat) ∧
    (ReportsOther x.1 x.2 a →
      x.2.failed + x.2.others < cfg.mqttBounceWifiAfterAttempts.toNat)

instance (cfg : Tunables) (x : Net × Row) (a : Act) (y : Net × Row) :
    Decidable (BouncesExactly cfg x a y) :=
  inferInstanceAs (Decidable (_ ↔ _))

/-! ### What `mqttAttempts` counts -/

/-- **`mqttAttempts` is the length of the row.** -/
def RowInv (x : Net × Row) : Prop := x.1.mqttAttempts = x.2.failed + x.2.others

theorem rowInv_step (cfg : Tunables) (s : Net) (h : Row) (a : Act) (s' : Net)
    (hinv : RowInv (s, h)) (hs : step cfg s a = some s') : RowInv (s', h.upd s a s') := by
  have hlen : s.mqttAttempts = h.failed + h.others := hinv
  cases (step_cases hs).2 with
  -- without Wi-Fi a report is neither counted nor part of the row
  | reportDown e rs hr hlink => simpa [RowInv, Row.upd, hlink] using hlen
  | reportBounce e rs hr hlink hmany => simp [RowInv, Row.upd]
  | reportRetry e rs hr hlink hfew =>
    by_cases hfails : e = .attempt ∧ h.stale = 0
    · have : s.mqttAttempts + 1 = h.failed + 1 + h.others := by omega
      simpa [RowInv, Row.upd, hlink, hr, hfails] using this
    · have : s.mqttAttempts + 1 = h.failed + (h.others + 1) := by omega
      simpa [RowInv, Row.upd, hlink, hr, hfails] using this
  | mqttConnect hclient => rfl
  | _ => exact hlen

/-- A report handled with Wi-Fi up is of a failed attempt or of something else. -/
theorem fails_or_reportsOther (s : Net) (h : Row) (a : Act) :
    Fails s h a ∨ ReportsOther s h a ↔ a = .report ∧ s.linkUp = true ∧ s.reports ≠ [] := by
  constructor
  · rintro (⟨ha, hup, hhead, -⟩ | ⟨ha, hup, hne, -⟩)
    · exact ⟨ha, hup, fun hnil => by rw [hnil] at hhead; cases hhead⟩
    · exact ⟨ha, hup, hne⟩
  · rintro ⟨ha, hup, hne⟩
    by_cases hfails : s.reports.head? = some .attempt ∧ h.stale = 0
    · exact Or.inl ⟨ha, hup, hfails⟩
    · exact Or.inr ⟨ha, hup, hne, hfails⟩

/-- At a single step, the radio is bounced exactly when it should be if and only if
the row fulfils the condition. -/
theorem bouncesExactly_step (cfg : Tunables) (s : Net) (h : Row) (a : Act) (s' : Net)
    (hinv : RowInv (s, h)) (hs : step cfg s a = some s') :
    OtherInRow cfg (s, h) a (s', h.upd s a s') ↔
      BouncesExactly cfg (s, h) a (s', h.upd s a s') := by
  have hlen : s.mqttAttempts = h.failed + h.others := hinv
  have hexcl : Fails s h a → ¬ReportsOther s h a := by
    rintro ⟨-, -, hfails⟩ ⟨-, -, -, hother⟩
    exact hother hfails
  have hbounce : s'.disconnects ≠ s.disconnects ↔
      (Fails s h a ∨ ReportsOther s h a) ∧
        cfg.mqttBounceWifiAfterAttempts.toNat ≤ h.failed + h.others := by
    rw [disconnects_ne_iff hs, fails_or_reportsOther, hlen, and_assoc, and_assoc]
  rw [OtherInRow, BouncesExactly, hbounce]
  by_cases hfails : Fails s h a
  -- the attempt completes the threshold, or it does not, and the row is long or short
  · have hother := hexcl hfails
    simp only [hfails, hother, true_or, true_and, true_implies, false_implies, and_true]
    omega
  · by_cases hother : ReportsOther s h a
    · simp only [hfails, hother, or_true, true_and, false_implies, true_implies, false_and,
        iff_false, Nat.not_le]
    · simp [hfails, hother]

/-- **The exact condition**: in a run, the radio is bounced at exactly the reports
that complete `MQTT_BOUNCE_WIFI_AFTER_ATTEMPTS` failed attempts in a row if and
only if every row that reaches the threshold holds another report. -/
theorem bouncesExactly_iff (cfg : Tunables) (t₀ : ℕ) (as : List Act) :
    Along (counted cfg) (BouncesExactly cfg) (startRow cfg t₀) as ↔
      Along (counted cfg) (OtherInRow cfg) (startRow cfg t₀) as :=
  (along_observe_iff_of_inv (J := RowInv)
    (fun s h a s' hinv hs _ => rowInv_step cfg s h a s' hinv hs)
    (bouncesExactly_step cfg) (show RowInv (startRow cfg t₀) from rfl) as).symm

/-- A broker that never answers: after `GOT_IP` five attempts fail in a row, each
retry made when its timer expires. -/
def runFiveFailed : List Act :=
  [.link true true, .deliver, .mqttDrop, .report, .tick 2000, .mqttTimer, .mqttDrop, .report,
    .tick 4000, .mqttTimer, .mqttDrop, .report, .tick 8000, .mqttTimer, .mqttDrop, .report,
    .tick 16000, .mqttTimer, .mqttDrop, .report]

/-- **The radio is not always bounced when it should be**: after the fifth failed
attempt in a row that `GOT_IP` opened, it is not. -/
theorem not_bouncesExactly :
    ¬∀ t₀ as, Along (counted configH) (BouncesExactly configH) (startRow configH t₀) as := fun h =>
  absurd (h 0 runFiveFailed) (by decide)

end Net

end SentinelEdge
