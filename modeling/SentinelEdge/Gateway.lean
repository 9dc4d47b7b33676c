import SentinelEdge.Mqtt.Lifecycle
import SentinelEdge.Mqtt.Session
import SentinelEdge.Net

/-!
# The network over the MQTT client

`src/net.cpp` with the client that it really uses. `SentinelEdge.Net` takes a client for
granted that connects, drops, and reports a drop; here this client is
`SentinelEdge.Mqtt.Client`, byte for byte. It is called with `connect` where the source calls
it, and what it calls back goes to the handlers of `src/net.cpp`.

`SentinelEdge.Gateway.exec_network` is that every run of the two together is a run of
`SentinelEdge.Net`, as long as the server and the TCP connection are orderly: each step of the
two is one step there, or, where the client acts, one for every connect and two for every drop
that it calls back (`SentinelEdge.Gateway.netRun`). So what holds of every state that
`SentinelEdge.Net` can reach holds of the network over the real client.
-/

namespace SentinelEdge

open LabelledRun Mqtt

/-! ### What is called back -/

namespace Net

/-- The handler of `src/net.cpp` for a callback. `onMqttPublish` only logs, and the others are
not set. -/
def onCallback (cfg : Tunables) (s : Net) : Callback → Net
  | .onConnect _ => s.onMqttConnect
  | .onDisconnect _ => s.onMqttDisconnect cfg
  | _ => s

/-- What the network does when the client calls back. A drop is reported at once. -/
def actsOf : Callback → List Act
  | .onConnect _ => [.mqttConnect]
  | .onDisconnect _ => [.mqttDrop, .report]
  | _ => []

/-- None of it is a call of `netLoop`. -/
theorem ne_netLoop_of_mem {calls : List Callback} {a : Act} (h : a ∈ calls.flatMap actsOf) :
    a ≠ .netLoop := by
  rintro rfl
  obtain ⟨call, -, hmem⟩ := List.mem_flatMap.mp h
  cases call <;> simp [actsOf] at hmem

variable {cfg : Tunables} {s s' : Net}

/-- The handlers do not look at the client, or at the drops that are not reported yet. -/
theorem onMqttDisconnect_with (cfg : Tunables) (s : Net) (x : ClientState) (rs : List Ended) :
    { s with client := x, reports := rs }.onMqttDisconnect cfg =
      { s.onMqttDisconnect cfg with client := x, reports := rs } := by
  simp only [onMqttDisconnect, wifiConnected, wifiDisconnect]
  split_ifs <;> rfl

/-- What no callback changes. -/
theorem onCallback_keeps (cfg : Tunables) (s : Net) (call : Callback) :
    (s.onCallback cfg call).restarted = s.restarted ∧ (s.onCallback cfg call).reports = s.reports ∧
      (s.onCallback cfg call).clock = s.clock := by
  cases call with
  | onDisconnect reason =>
    simp only [onCallback, onMqttDisconnect, wifiConnected, wifiDisconnect]
    split_ifs <;> exact ⟨rfl, rfl, rfl⟩
  | _ => exact ⟨rfl, rfl, rfl⟩

theorem foldl_onCallback_keeps (cfg : Tunables) (calls : List Callback) (s : Net) :
    (calls.foldl (onCallback cfg) s).restarted = s.restarted ∧
      (calls.foldl (onCallback cfg) s).reports = s.reports ∧
        (calls.foldl (onCallback cfg) s).clock = s.clock := by
  induction calls generalizing s with
  | nil => exact ⟨rfl, rfl, rfl⟩
  | cons call calls ih =>
    obtain ⟨hrestarted, hreports, hclock⟩ := onCallback_keeps cfg s call
    obtain ⟨hrestarted', hreports', hclock'⟩ := ih (s.onCallback cfg call)
    exact ⟨hrestarted'.trans hrestarted, hreports'.trans hreports, hclock'.trans hclock⟩

/-- **What the client goes through**, with its callbacks handled, is what the network takes for
granted of a client. -/
theorem exec_life (cfg : Tunables) {x y : ClientState} {calls : List Callback}
    (h : Life x calls y) (hrunning : s.restarted = false) (hreports : s.reports = []) :
    exec (step cfg) { s with client := x } (calls.flatMap actsOf) =
      some { calls.foldl (onCallback cfg) s with client := y } := by
  induction h with
  | here => rfl
  | @connected calls _ sessionPresent ih =>
    obtain ⟨hrestarted, -, -⟩ := foldl_onCallback_keeps cfg calls s
    rw [List.foldl_append, List.flatMap_append, exec_append, ih, Option.bind_some]
    generalize calls.foldl (onCallback cfg) s = t at hrestarted
    show exec (step cfg) _ [.mqttConnect] = _
    rw [exec_singleton]
    exact if_neg (by rw [hrestarted, hrunning]; exact Bool.false_ne_true)
  | @dropped y calls _ hy reason ih =>
    obtain ⟨hrestarted, hnone, -⟩ := foldl_onCallback_keeps cfg calls s
    rw [List.foldl_append, List.flatMap_append, exec_append, ih, Option.bind_some]
    generalize calls.foldl (onCallback cfg) s = t at hrestarted hnone
    rw [hrunning] at hrestarted
    rw [hreports] at hnone
    obtain ⟨e, he⟩ : ∃ e, y.ended = some e := by
      cases y with
      | disconnected => exact absurd rfl hy
      | connecting => exact ⟨.attempt, rfl⟩
      | _ => exact ⟨.session, rfl⟩
    have hdrop : step cfg { t with client := y } .mqttDrop =
        some { t with client := .disconnected, reports := [e] } := by
      rw [step, if_neg (by rw [hrestarted]; exact Bool.false_ne_true)]
      show y.ended.map _ = _
      rw [he, hnone]
      rfl
    have hreport : step cfg { t with client := .disconnected, reports := [e] } .report =
        some { t.onMqttDisconnect cfg with client := .disconnected } := by
      rw [step, if_neg (by rw [hrestarted]; exact Bool.false_ne_true)]
      show some ({ t with client := .disconnected, reports := [] }.onMqttDisconnect cfg) = _
      obtain ⟨-, hkeeps, -⟩ := onCallback_keeps cfg t (.onDisconnect reason)
      have hkeeps : (t.onMqttDisconnect cfg).reports = [] := hkeeps.trans hnone
      rw [onMqttDisconnect_with, ← hkeeps]
    show exec (step cfg) _ [.mqttDrop, .report] = _
    rw [exec_cons, hdrop, Option.bind_some, exec_singleton, hreport]
    rfl
  | @called y calls _ call hcall ih =>
    rw [List.foldl_append, List.flatMap_append, exec_append, ih, Option.bind_some]
    cases call with
    | onConnect sessionPresent => cases hcall
    | onDisconnect reason => cases hcall
    | _ => rfl

/-- The step calls `connectToMqtt`. -/
def CallsConnect (s : Net) (a : Act) : Prop := a = .mqttTimer ∨ Delivers s a .gotIp

instance (s : Net) (a : Act) : Decidable (CallsConnect s a) := inferInstanceAs (Decidable (_ ∨ _))

theorem not_callsConnect_deliver {e : WifiEvent} {es : List WifiEvent} (he : s.events = e :: es)
    (hne : e ≠ .gotIp) : ¬CallsConnect s .deliver := by
  rintro (hc | ⟨-, hc⟩)
  · cases hc
  · rw [he] at hc
    exact hne (Option.some.inj hc)

/-- The step is one of `src/net.cpp` or of the link, not one of the client or of time. -/
def Act.Own : Act → Prop
  | .tick _ | .mqttConnect | .mqttDrop | .report => False
  | _ => True

instance (a : Act) : Decidable a.Own := by
  cases a <;> first | exact isTrue trivial | exact isFalse id

/-- What becomes of the client, of the drops and of time in such a step. -/
theorem step_own {a : Act} (h : step cfg s a = some s') (ha : a.Own) :
    s'.client = (if CallsConnect s a then s.client.connect else s.client) ∧
      s'.reports = s.reports ∧ s'.clock = s.clock := by
  cases (step_cases h).2 with
  | tick ms => exact ha.elim
  | mqttConnect hclient => exact ha.elim
  | mqttDrop e he => exact ha.elim
  | reportDown e rs hr hlink => exact ha.elim
  | reportBounce e rs hr hlink hmany => exact ha.elim
  | reportRetry e rs hr hlink hfew => exact ha.elim
  | gotIp es he =>
    have hcalls : CallsConnect s .deliver := Or.inr ⟨rfl, by rw [he]; rfl⟩
    rw [if_pos hcalls]
    exact ⟨rfl, rfl, rfl⟩
  | mqttTimer harmed =>
    have hcalls : CallsConnect s .mqttTimer := Or.inl rfl
    rw [if_pos hcalls]
    exact ⟨rfl, rfl, rfl⟩
  | staDisconnected es he =>
    rw [if_neg (not_callsConnect_deliver he nofun)]
    exact ⟨rfl, rfl, rfl⟩
  | deliverOther es he =>
    rw [if_neg (not_callsConnect_deliver he nofun)]
    exact ⟨rfl, rfl, rfl⟩
  | _ =>
    refine ⟨(if_neg ?_).symm, rfl, rfl⟩
    rintro (hc | ⟨hc, -⟩) <;> cases hc

end Net

/-! ### The two together -/

/-- The variables of `src/net.cpp` with the platform under them, and the client. The field
`SentinelEdge.Net.client` of the former is of no significance. -/
structure Gateway where
  /-- The network. -/
  net : Net
  /-- `mqttClient`. -/
  mqtt : Client

namespace Gateway

/-- What the network looks like with the client as it is. -/
def view (g : Gateway) : Net := { g.net with client := g.mqtt.state }

/-- A step. -/
inductive Act where
  /-- Time passes. -/
  | tick (ms : ℕ)
  /-- The platform or `src/net.cpp` does something. -/
  | net (a : Net.Act)
  /-- The client or the TCP library under it does something, or a message is published. -/
  | mqtt (a : Client.Act)

/-- After a step of the client, its callbacks are handled. -/
def after (cfg : Tunables) (g : Gateway) (c : Client) : Gateway where
  net := (c.calls.drop g.mqtt.calls.length).foldl (Net.onCallback cfg) g.net
  mqtt := c

/-- The firmware does this with the client only in its own steps, or not at all. -/
def Own : Client.Act → Bool
  | .tick _ | .connect | .disconnect _ | .subscribe .. | .unsubscribe _ | .clearQueue => false
  | _ => true

/-- One step. Nothing is said of a device on which something undefined has been done. -/
def step (cfg : Tunables) (settings : Settings) (g : Gateway) (a : Act) : Option Gateway :=
  if g.net.restarted ∨ g.mqtt.fault ≠ none then none
  else match a with
    | .tick ms =>
      some
        { net := { g.net with clock := g.net.clock + ms }
          mqtt := { g.mqtt with clock := g.mqtt.clock + ms } }
    | .net a =>
      if a.Own then
        (Net.step cfg g.view a).map fun net =>
          { net := net, mqtt := if Net.CallsConnect g.view a then g.mqtt.connect else g.mqtt }
      else none
    | .mqtt a => if Own a then (Client.step settings g.mqtt a).map (g.after cfg) else none

/-- The callbacks that the client makes in a step. -/
def called (g g' : Gateway) : List Callback := g'.mqtt.calls.drop g.mqtt.calls.length

/-- **What the network does in a step**: what the platform or `src/net.cpp` does, or what comes of
the callbacks of the client. -/
def netActs (g : Gateway) (a : Act) (g' : Gateway) : List Net.Act :=
  match a with
  | .tick ms => [.tick ms]
  | .net a => [a]
  | .mqtt _ => (g.called g').flatMap Net.actsOf

/-- What the network does in a run, step for step. -/
def netRun (cfg : Tunables) (settings : Settings) : Gateway → List Act → List Net.Act :=
  answers (step cfg settings) netActs

/-- After `netBegin`, at true time `t₀`. -/
def netBegin (cfg : Tunables) (settings : Settings) (t₀ : ℕ) : Gateway where
  net := Net.netBegin cfg (Net.powerOn t₀)
  mqtt := Client.init settings t₀

/-- The client may take for granted what it does in this step. -/
def Orderly (g : Gateway) : Act → Prop
  | .mqtt a => g.mqtt.Orderly a
  | _ => True

instance (g : Gateway) : ∀ a : Act, Decidable (g.Orderly a)
  | .mqtt a => inferInstanceAs (Decidable (g.mqtt.Orderly a))
  | .tick _ | .net _ => inferInstanceAs (Decidable True)

variable {cfg : Tunables} {settings : Settings} {t₀ : ℕ} {g g' : Gateway} {a : Act} {as : List Act}

/-- How the network and the client belong together. -/
structure Fits (g : Gateway) : Prop where
  alive : g.mqtt.Alive
  clock : g.mqtt.clock = g.net.clock
  reports : g.net.reports = []

/-- The network itself calls `netLoop`, and not the client. -/
theorem ne_netLoop_of_mem_netActs (ha : a ≠ .net .netLoop) {b : Net.Act}
    (hb : b ∈ g.netActs a g') : b ≠ .netLoop := by
  cases a with
  | tick ms =>
    rw [List.mem_singleton.mp hb]
    exact nofun
  | net a =>
    rw [List.mem_singleton.mp hb]
    exact fun h => ha (h ▸ rfl)
  | mqtt a => exact Net.ne_netLoop_of_mem hb

/-- **A step of the two**, in the network. -/
theorem step_net (hfits : g.Fits) (h : step cfg settings g a = some g') (horderly : g.Orderly a) :
    g'.Fits ∧ exec (Net.step cfg) g.view (g.netActs a g') = some g'.view := by
  obtain ⟨hrunning, h⟩ := Option.ite_none_left_eq_some.mp h
  have hrunning : g.net.restarted = false := Bool.eq_false_iff.mpr fun h => hrunning (Or.inl h)
  cases a with
  | tick ms =>
    obtain rfl := Option.some.inj h
    refine ⟨⟨hfits.alive, congrArg (· + ms) hfits.clock, hfits.reports⟩, ?_⟩
    show exec (Net.step cfg) _ [.tick ms] = _
    rw [exec_singleton]
    exact if_neg (by rw [view, hrunning]; exact Bool.false_ne_true)
  | net a =>
    obtain ⟨ha, h⟩ := Option.ite_none_right_eq_some.mp h
    obtain ⟨s, hs, rfl⟩ := Option.map_eq_some_iff.mp h
    obtain ⟨hclient, hreports, hclock⟩ := Net.step_own hs ha
    obtain ⟨halive, hstate, hclock', -⟩ := Client.connect_alive hfits.alive
    have hview :
        view ⟨s, if Net.CallsConnect g.view a then g.mqtt.connect else g.mqtt⟩ = s := by
      have hsame : (if Net.CallsConnect g.view a then g.mqtt.connect else g.mqtt).state =
          s.client := by
        rw [hclient]
        split
        · exact hstate
        · rfl
      rw [view, hsame]
    refine ⟨⟨?_, ?_, hreports.trans hfits.reports⟩, ?_⟩
    · show Client.Alive (if _ then _ else _)
      split
      · exact halive
      · exact hfits.alive
    · rw [hclock]
      show Client.clock (if _ then _ else _) = _
      split
      · exact hclock'.trans hfits.clock
      · exact hfits.clock
    · show exec (Net.step cfg) _ [a] = _
      rw [exec_singleton, hview]
      exact hs
  | mqtt a =>
    obtain ⟨ha, h⟩ := Option.ite_none_right_eq_some.mp h
    obtain ⟨c, hc, rfl⟩ := Option.map_eq_some_iff.mp h
    have hordinary : a.Ordinary := by
      cases a <;> trivial
    have hlives := Client.step_lives hc hordinary hfits.alive horderly
    obtain ⟨calls, hcalls, hlife⟩ := hlives.life
    have hnew : c.calls.drop g.mqtt.calls.length = calls := by
      rw [hcalls, List.drop_left]
    obtain ⟨-, hreports, hclock⟩ := Net.foldl_onCallback_keeps cfg calls g.net
    refine ⟨⟨hlives.alive, ?_, ?_⟩, ?_⟩
    · rw [after, hnew, hclock]
      exact hlives.clock.trans hfits.clock
    · rw [after, hnew, hreports]
      exact hfits.reports
    · show exec (Net.step cfg) _ ((c.calls.drop g.mqtt.calls.length).flatMap Net.actsOf) = _
      rw [after, hnew]
      exact Net.exec_life cfg hlife hrunning hfits.reports

/-- **For the client** a step is one of its own, or a call of `connect`, or time passing, or
nothing. -/
theorem step_client (h : step cfg settings g a = some g') :
    g'.mqtt = g.mqtt ∨ ∃ b, Client.step settings g.mqtt b = some g'.mqtt ∧
      (b = .connect ∨ (∃ ms, b = .tick ms) ∨ Own b ∧ a = .mqtt b) := by
  obtain ⟨hgo, h⟩ := Option.ite_none_left_eq_some.mp h
  have hfault : g.mqtt.fault = none := by
    by_contra hfault
    exact hgo (Or.inr hfault)
  cases a with
  | tick ms =>
    obtain rfl := Option.some.inj h
    exact Or.inr ⟨.tick ms, if_neg (not_not.mpr hfault), Or.inr (Or.inl ⟨ms, rfl⟩)⟩
  | net a =>
    obtain ⟨-, h⟩ := Option.ite_none_right_eq_some.mp h
    obtain ⟨s, -, rfl⟩ := Option.map_eq_some_iff.mp h
    show (if Net.CallsConnect g.view a then g.mqtt.connect else g.mqtt) = g.mqtt ∨ ∃ b, _ =
      some (if Net.CallsConnect g.view a then g.mqtt.connect else g.mqtt) ∧ _
    split
    · exact Or.inr ⟨.connect, if_neg (not_not.mpr hfault), Or.inl rfl⟩
    · exact Or.inl rfl
  | mqtt a =>
    obtain ⟨ha, h⟩ := Option.ite_none_right_eq_some.mp h
    obtain ⟨c, hc, rfl⟩ := Option.map_eq_some_iff.mp h
    exact Or.inr ⟨a, hc, Or.inr (Or.inr ⟨ha, rfl⟩)⟩

/-- **The network over the real client is the network**: every run of the two together, in which
the server and the connection are orderly, is a run of `SentinelEdge.Net`, seen with the state
of the client. It takes the steps that `netRun` says, one after the other. -/
theorem exec_network (hrun : exec (step cfg settings) (netBegin cfg settings t₀) as = some g)
    (horderly : Along (step cfg settings) (fun g a _ => g.Orderly a) (netBegin cfg settings t₀)
      as) :
    g.Fits ∧ exec (Net.step cfg) (Net.netBegin cfg (Net.powerOn t₀))
      (netRun cfg settings (netBegin cfg settings t₀) as) = some g.view := by
  have hfits : (netBegin cfg settings t₀).Fits := ⟨iff_of_true rfl rfl, rfl, rfl⟩
  refine exec_answers (I := Fits) (f := view) ?_ hfits horderly hrun
  rintro g a g' hfits h ha
  exact step_net hfits h ha

/-- The link comes up; the server accepts the connection and ends it; the next one it refuses. -/
def refusedRun : List Act :=
  [.net (.link true true), .net .deliver, .mqtt (.tcpConnected [.of 1000]),
    .mqtt (.data [0x20, 2, 0, 0]), .mqtt .parse, .mqtt .parse, .mqtt .parse, .mqtt .parse,
    .mqtt .tcpClosed, .tick 2000, .net .mqttTimer, .mqtt (.tcpConnected [.of 1000]),
    .mqtt (.data [0x20, 2, 0, 5]), .mqtt .parse, .mqtt .parse, .mqtt .parse, .mqtt .parse,
    .mqtt .tcpClosed]

-- two drops, and a connect before the first
example : netRun configH Client.plainSettings (netBegin configH Client.plainSettings 0) refusedRun =
    [.link true true, .deliver, .mqttConnect, .mqttDrop, .report, .tick 2000, .mqttTimer,
      .mqttDrop, .report] := rfl

theorem exec_network_refused :
    ∃ g, exec (step configH Client.plainSettings) (netBegin configH Client.plainSettings 0)
        refusedRun = some g ∧
      g.Fits ∧ exec (Net.step configH) (Net.netBegin configH (Net.powerOn 0))
        (netRun configH Client.plainSettings (netBegin configH Client.plainSettings 0)
          refusedRun) = some g.view := by
  have hrun : exec (step configH Client.plainSettings) (netBegin configH Client.plainSettings 0)
      refusedRun = some _ := rfl
  exact ⟨_, hrun, exec_network hrun (by decide +kernel)⟩

end Gateway

end SentinelEdge
