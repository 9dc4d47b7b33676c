import SentinelEdge.Firmware
import SentinelEdge.Mqtt.Order

/-!
# What the broker gets

From the sensors to the bytes on the connection. `SentinelEdge.Firmware.broker_reads` says, of
every run of the firmware, what a server makes of the bytes it has received on the open
connection: a CONNECT with the name of the device, then acknowledgements, pings and messages,
each of them whole. A message has been published in a pass of the run, on the topic of the
device, and its payload is a JSON object in which the server finds, under the key of each
quantity, what was measured in that pass, and nothing else – as long as no failed read has left
a plausible value, which is where `SentinelEdge.Station.intact_iff` comes in.

The messages come in the order in which the firmware has published them, under the identifiers
that the client has given them, and none of them comes more often over one connection than it has
been published (`SentinelEdge.Firmware.broker_in_order`).

Both are about runs in which the TCP library takes what it has said that it has room for
(`SentinelEdge.Firmware.Act.Honest`), and in which the client throws its queue away, on an open
connection, only when something has been sent and nothing of its head in part
(`SentinelEdge.Firmware.Timely`).

What the payload has to fit into, and what ArduinoJson may print, is
`SentinelEdge.Board.Fitting`. The build that `include/config.h` describes is fitting if no
numeral is longer than fifty characters (`SentinelEdge.Board.fitting_of_configH`).
-/

namespace SentinelEdge

open LabelledRun WrapClock Mqtt

/-! ### The settings -/

namespace Board

variable {b : Board}

/-- What the CONNECT of the device says. -/
def request (b : Board) : ConnectRequest where
  cleanSession := true
  keepAlive := mqttKeepaliveS
  clientId := b.id.clientId
  will := none
  username := if strlen b.secrets.mqttUser > 0 then some b.secrets.mqttUser else none
  password := if strlen b.secrets.mqttUser > 0 then some b.secrets.mqttPassword else none

theorem settings_valid (b : Board) : b.settings.Valid := configureBroker_valid b.mac b.secrets

/-- The settings are what the CONNECT says. -/
theorem request_eq (b : Board) :
    b.request = ⟨b.settings.cleanSession, b.settings.keepAlive, b.settings.clientId,
      b.settings.will.map Will.message, b.settings.username, b.settings.password⟩ := by
  rw [request, settings, configureBroker]
  split <;> rfl

/-- The payloads fit the buffer, and the messages can be sent. -/
structure Fitting (b : Board) : Prop where
  qos : b.cfg.mqttQos ≤ 2
  narrow : ∀ v, CString.Narrow (b.fmt.numeral v)
  fits : ∀ r, (jsonText b.fmt r).length < b.cfg.telemetryPayloadMax
  short : b.cfg.telemetryPayloadMax ≤ 2 ^ 27

/-- With numerals of at most fifty characters, the build of the header is fitting. -/
theorem fitting_of_configH (hcfg : b.cfg = configH)
    (hnarrow : ∀ v, CString.Narrow (b.fmt.numeral v))
    (hlen : ∀ v, (b.fmt.numeral v).length ≤ 50) : b.Fitting where
  qos := by
    rw [hcfg]
    decide
  narrow := hnarrow
  fits := by
    rw [hcfg]
    exact jsonText_fits b.fmt hlen
  short := by
    rw [hcfg]
    decide

/-! ### The payload -/

/-- The payload is a JSON object with something in it, and nothing but quantities, each at most
once. Under the key of a quantity it says what was measured, unless the read failed and left a
plausible value. -/
def Reports (b : Board) (s : Sensors) (reads : Reads) (payload : List UInt8) : Prop :=
  ∃ ms, FlatJson.parse (CString.chars payload) = some ms ∧ ms ≠ [] ∧
    (ms.map Prod.fst).Nodup ∧ (∀ m ∈ ms, ∃ q : Quantity, m.1 = q.key) ∧
    ∀ q, LeftoverRejected s reads q → ms.lookup q.key = (measured s reads q).map b.fmt.numeral

/-- The text is narrow. -/
theorem narrow_jsonText (hnarrow : ∀ v, CString.Narrow (b.fmt.numeral v)) (r : Readings) :
    CString.Narrow (jsonText b.fmt r) := by
  have hkeys : ∀ q : Quantity, CString.Narrow q.key := by
    intro q
    cases q <;> exact CString.narrow_of_all rfl
  intro c hc
  by_contra hwide
  have hout : c ∉ jsonText b.fmt r := by
    refine FlatJson.not_mem_print ?_ fun m hm => ?_
    · intro hmem
      have hmarks : CString.Narrow ['{', '}', '"', ',', ':'] := CString.narrow_of_all rfl
      exact hwide (hmarks c hmem)
    · obtain ⟨q, v, rfl⟩ := exists_of_mem_members b.fmt hm
      exact ⟨fun hmem => hwide (hkeys q c hmem), fun hmem => hwide (hnarrow v c hmem)⟩
  exact hout hc

/-- The message with the payload that is in a buffer, and the identifier that the client has
given it. -/
def publication (b : Board) (accepted : UInt16 × List Char) : Publication where
  dup := false
  retain := false
  qos := b.cfg.mqttQos
  topic := b.id.telemetryTopic
  packetId := if b.cfg.mqttQos = 0 then none else some accepted.1
  payload := CString.bytes ((CString.read accepted.2).getD [])

/-- **What a cycle hands on** is read, out of the memory it is in, as what was measured. -/
theorem Fitting.reports (h : b.Fitting) {s : Sensors} {reads : Reads}
    {junk : List.Vector Char b.cfg.telemetryPayloadMax} {payload : List Char}
    (hpayload : publishReadings b.fmt b.cfg (sensorsRead s reads) junk = some payload)
    (beyond : List UInt8) :
    (telemetry b.cfg b.id (CString.bytes payload ++ beyond)).Valid ∧
      (∀ packetId, (telemetry b.cfg b.id (CString.bytes payload ++ beyond)).publication packetId =
        b.publication (packetId, payload)) ∧
      b.Reports s reads (telemetry b.cfg b.id (CString.bytes payload ++ beyond)).content := by
  have hany : (sensorsRead s reads).any = true := by
    by_contra hnone
    rw [publishReadings_none b.fmt b.cfg (Bool.eq_false_iff.mpr hnone)] at hpayload
    cases hpayload
  have hfits := h.fits (sensorsRead s reads)
  have hread : CString.read payload = some (jsonText b.fmt (sensorsRead s reads)) := by
    have hreceived := received_publishReadings b.fmt b.cfg hany junk hfits
    rwa [hpayload] at hreceived
  have hnarrow := narrow_jsonText h.narrow (sensorsRead s reads)
  have hcontent := CString.takeWhile_bytes hread hnarrow beyond
  refine ⟨telemetry_valid h.qos ?_ b.mac, fun packetId => ?_,
    members b.fmt (sensorsRead s reads), ?_, ?_, nodup_keys_members b.fmt _, fun m hm => ?_, ?_⟩
  · rw [hcontent, CString.length_bytes]
    exact Nat.lt_of_lt_of_le hfits h.short
  · rw [Message.publication, content_telemetry, hcontent, publication, hread]
    rfl
  · rw [content_telemetry, hcontent, CString.chars_bytes hnarrow]
    exact parse_jsonText b.fmt _
  · intro hempty
    have hnone : ∀ q, (sensorsRead s reads).reported q = none := by
      intro q
      have hlookup := lookup_members b.fmt (sensorsRead s reads) q
      rw [hempty] at hlookup
      exact Option.map_eq_none_iff.mp hlookup.symm
    rw [(Readings.any_eq_false_iff _).mpr hnone] at hany
    cases hany
  · obtain ⟨q, v, rfl⟩ := exists_of_mem_members b.fmt hm
    exact ⟨q, rfl⟩
  · intro q hleft
    rw [lookup_members, reported_eq_measured hleft]

end Board

/-! ### What the client is told to do -/

namespace Firmware

variable {b : Board} {f f' : Firmware} {a : Act b} {as : List (Act b)}

/-- The messages that the firmware has published so far, under the identifiers that the client has
given them. -/
def published (b : Board) (f : Firmware) : List Publication := f.accepted.map b.publication

/-- What the client may be doing in a step. -/
def Does (b : Board) (f : Firmware) : Act b → Client.Act → Prop
  | .gateway a, x =>
    x = .connect ∨ (∃ ms, x = .tick ms) ∨ Background a ∧ Gateway.Own x ∧ a = .mqtt x
  | .loop p, x =>
    ∃ payload, publishReadings b.fmt b.cfg (sensorsRead f.station.sensors p.input.reads)
        p.input.junk = some payload ∧
      x = .publish (telemetry b.cfg b.id (CString.bytes payload ++ p.beyond)) p.freeMemory

/-- The identifier under which a message is published is the one that the client gives it. -/
theorem publication_nextPacketId {g : Gateway} {freeMemory : ℕ}
    (hacc : Accepts g.mqtt.state freeMemory) (memory : List UInt8) (payload : List Char) :
    b.publication ((g.netPublishTelemetry b memory freeMemory).2.mqtt.nextPacketId, payload) =
      b.publication (g.mqtt.publishId (telemetry b.cfg b.id memory), payload) := by
  rw [Gateway.netPublishTelemetry_nextPacketId, Client.publishId]
  by_cases hqos : b.cfg.mqttQos = 0 <;> simp [Board.publication, telemetry, hacc, hqos]

/-- **For the client** a cycle is a call of `publish`, or nothing, and what it accepts is what the
cycle publishes. -/
theorem runCycle_client (hfit : b.Fitting) (hrunning : f.gateway.net.restarted = false)
    (hfault : f.gateway.mqtt.fault = none) (now : UInt32) (p : Pass b.cfg) :
    (f.runCycle b now p).gateway.mqtt = f.gateway.mqtt ∧
        (f.runCycle b now p).published b = f.published b ∨
      ∃ x, Client.step b.settings f.gateway.mqtt x = some (f.runCycle b now p).gateway.mqtt ∧
        f.Does b (.loop p) x ∧
        (f.runCycle b now p).published b = f.published b ++ f.gateway.mqtt.accepts x := by
  rcases runCycle_cases f now p with ⟨hsame, hnone⟩ | ⟨payload, hpayload, hcalls, haccepted⟩
  · rw [published, hsame, hnone]
    exact Or.inl ⟨rfl, rfl⟩
  · rw [published, haccepted, hcalls]
    rcases Gateway.netPublishTelemetry_snd (b := b) (CString.bytes payload ++ p.beyond)
      p.freeMemory hrunning hfault with ⟨hsame, hnot⟩ | hpublish
    · rw [hsame, if_neg hnot]
      exact Or.inl ⟨rfl, rfl⟩
    · obtain ⟨-, hpublish⟩ := Option.ite_none_left_eq_some.mp hpublish
      obtain ⟨-, hpublish⟩ := Option.ite_none_right_eq_some.mp hpublish
      obtain ⟨c, hc, hafter⟩ := Option.map_eq_some_iff.mp hpublish
      obtain ⟨-, hmessage, -⟩ := hfit.reports hpayload p.beyond
      refine Or.inr ⟨_, ?_, ⟨payload, hpayload, rfl⟩, ?_⟩
      · rw [← hafter]
        exact hc
      · rw [Client.accepts]
        by_cases hacc : Accepts f.gateway.mqtt.state p.freeMemory
        · rw [if_pos hacc, if_pos hacc, List.map_append, List.map_singleton,
            publication_nextPacketId hacc, hmessage]
          rfl
        · rw [if_neg hacc, if_neg hacc, List.append_nil]
          rfl

/-- **For the client** a step of the firmware is one step, or nothing, and what it accepts in
it is what the firmware publishes. -/
theorem step_client (hfit : b.Fitting) (h : step b f a = some f') :
    f'.gateway.mqtt = f.gateway.mqtt ∧ f'.published b = f.published b ∨
      ∃ x, Client.step b.settings f.gateway.mqtt x = some f'.gateway.mqtt ∧ f.Does b a x ∧
        f'.published b = f.published b ++ f.gateway.mqtt.accepts x := by
  cases a with
  | gateway a =>
    obtain ⟨ha, h⟩ := Option.ite_none_right_eq_some.mp h
    obtain ⟨g, hg, rfl⟩ := Option.map_eq_some_iff.mp h
    rcases Gateway.step_client hg with hsame | ⟨x, hx, hdoes⟩
    · exact Or.inl ⟨hsame, rfl⟩
    · refine Or.inr ⟨x, hx, hdoes.imp_right (Or.imp_right fun heq => ⟨ha, heq⟩), ?_⟩
      -- a message is published in a pass only
      have hnone : f.gateway.mqtt.accepts x = [] := by
        refine Client.accepts_of_ne ?_
        rintro m freeMemory rfl
        rcases hdoes with hx | ⟨ms, hx⟩ | ⟨-, rfl⟩
        · cases hx
        · cases hx
        · cases ha
      rw [hnone, List.append_nil]
      rfl
  | loop p =>
    obtain ⟨hgo, h⟩ := Option.ite_none_left_eq_some.mp h
    obtain rfl := Option.some.inj h
    have hfault : f.gateway.mqtt.fault = none := by
      by_contra hfault
      exact hgo (Or.inr hfault)
    rw [loop_eq f p]
    split
    · rename_i hdue
      exact runCycle_client (f := { f with gateway := f.gateway.netLoop b.cfg }) hfit hdue.1 hfault
        (stamp f.gateway.net.clock) p
    · exact Or.inl ⟨rfl, rfl⟩

/-! ### What the server reads -/

/-- The TCP library takes what it has said that it has room for. -/
def Act.Honest : Act b → Prop
  | .gateway (.mqtt x) => x.Offers Room.Honest
  | _ => True

instance : ∀ a : Act b, Decidable a.Honest
  | .gateway (.mqtt x) => inferInstanceAs (Decidable (x.Offers Room.Honest))
  | .gateway (.net _) | .gateway (.tick _) | .loop _ => inferInstanceAs (Decidable True)

/-- On an open connection, the queue is thrown away only if something has been sent, and the head
has not been sent in part. -/
def Timely (b : Board) (f : Firmware) : Act b → Prop
  | .gateway (.mqtt x) => f.gateway.mqtt.Timely x
  | _ => True

instance (f : Firmware) : ∀ a : Act b, Decidable (f.Timely b a)
  | .gateway (.mqtt x) => inferInstanceAs (Decidable (f.gateway.mqtt.Timely x))
  | .gateway (.net _) | .gateway (.tick _) | .loop _ => inferInstanceAs (Decidable True)

/-- **What a step can want the server to read**: who the device is, the acknowledgement that is
owed for what has arrived, a ping that is due, or the message that is published in this very pass,
which says what is measured in it. -/
def Means (b : Board) (f : Firmware) (a : Act b) (f' : Firmware) : ClientPacket → Prop
  | .connect r => (∃ rooms, a = .gateway (.mqtt (.tcpConnected rooms))) ∧ r = b.request
  | .ack packetType packetId =>
    a = .gateway (.mqtt .parse) ∧ ∃ e ∈ f.gateway.mqtt.events, ∃ x : Ack,
      e.answer = some (x, packetId) ∧ packetType = x.packetType
  | .pingReq => a = .gateway (.mqtt .poll) ∧ Client.PingDue b.settings f.gateway.mqtt
  | .publish r =>
    ∃ p, a = .loop p ∧ f'.published b = f.published b ++ [r.plain] ∧
      b.Reports f.station.sensors p.input.reads r.payload
  | _ => False

/-- Some step of the run meant this. -/
def Meant (b : Board) (f : Firmware) (as : List (Act b)) (r : ClientPacket) : Prop :=
  Sometime (step b) (fun f a f' => f.Means b a f' r) f as

/-- What a step means, some step of the run has meant. -/
theorem along_meant (b : Board) (f : Firmware) (as : List (Act b)) :
    Along (step b) (fun g a g' => ∀ r, g.Means b a g' r → f.Meant b as r) f as :=
  along_sometime (fun r g a g' => g.Means b a g' r) f as

theorem lenient_meant (b : Board) (f : Firmware) (as : List (Act b)) : Lenient (f.Meant b as) :=
  fun _ h => h.imp fun _ _ _ h => h

/-- What the client does in a step, it can do, and it says what the step means. -/
theorem means_of_does (hfit : b.Fitting) {x : Client.Act} (hdoes : f.Does b a x)
    (hpublished : f'.published b = f.published b ++ f.gateway.mqtt.accepts x) (hhonest : a.Honest)
    (htimely : f.Timely b a) :
    (x.Valid ∧ x.Offers Room.Honest ∧ f.gateway.mqtt.Timely x) ∧
      ∀ r, f.gateway.mqtt.Means b.settings x r → f.Means b a f' r := by
  cases a with
  | gateway a =>
    rcases hdoes with rfl | ⟨ms, rfl⟩ | ⟨hback, hown, rfl⟩
    · exact ⟨⟨trivial, trivial, fun _ h => h.elim⟩, fun r h => h.elim⟩
    · exact ⟨⟨trivial, trivial, fun _ h => h.elim⟩, fun r h => h.elim⟩
    · refine ⟨⟨?_, hhonest, htimely⟩, ?_⟩
      · cases x with
        | publish m freeMemory => cases hback
        | subscribe topic qos => cases hown
        | unsubscribe topic => cases hown
        | _ => trivial
      · intro r h
        cases x with
        | tcpConnected rooms =>
          cases r with
          | connect r => exact ⟨⟨rooms, rfl⟩, (show r = _ from h).trans b.request_eq.symm⟩
          | _ => exact h.elim
        | parse =>
          cases r with
          | ack packetType packetId => exact ⟨rfl, h⟩
          | _ => exact h.elim
        | poll =>
          cases r with
          | pingReq => exact ⟨rfl, h⟩
          | _ => exact h.elim
        | publish m freeMemory => cases hback
        | disconnect force => cases hown
        | subscribe topic qos => cases hown
        | unsubscribe topic => cases hown
        | _ => exact h.elim
  | loop p =>
    obtain ⟨payload, hpayload, rfl⟩ := hdoes
    obtain ⟨hvalid, -, hreports⟩ := hfit.reports hpayload p.beyond
    refine ⟨⟨hvalid, trivial, fun _ h => h.elim⟩, fun r h => ?_⟩
    cases r with
    | publish r =>
      obtain ⟨hacc, hplain⟩ := h
      rw [Client.accepts, if_pos hacc, ← hplain] at hpublished
      have hcontent : r.payload =
          (telemetry b.cfg b.id (CString.bytes payload ++ p.beyond)).content :=
        congrArg Publication.payload hplain
      rw [← hcontent] at hreports
      exact ⟨p, rfl, hpublished, hreports⟩
    | _ => exact h.elim

/-- At first the client is as it is created. -/
theorem setup_mqtt (b : Board) (present : Bool) (o : BeginOutcome) (t₀ : ℕ) :
    (setup b present o t₀).gateway.mqtt = Client.init b.settings t₀ := by
  rw [setup]
  split <;> rfl

/-- **What the broker gets**, in every run of the firmware in which the TCP library takes what it
has said that it has room for, and the queue is thrown away only when something has been sent and
nothing of its head in part: whole packets, of which the first is the CONNECT of the device, each
of them meant by a step of the run – a message by the pass that has published it – and then a part
of the packet that is being sent. -/
theorem broker_reads {present : Bool} {o : BeginOutcome} {t₀ : ℕ} (hfit : b.Fitting)
    (hrun : exec (step b) (setup b present o t₀) as = some f) (hhonest : ∀ a ∈ as, a.Honest)
    (htimely : Along (step b) (fun f a _ => f.Timely b a) (setup b present o t₀) as)
    (hopen : f.gateway.mqtt.tcp = .opened) :
    ∃ frames rest, framing.receive f.gateway.mqtt.wire = (frames, rest) ∧
      (∀ x ∈ frames, ∃ r, x.read = some r ∧ (setup b present o t₀).Meant b as r) ∧
      (∀ x ∈ frames.head?, x.read = some (.connect b.request)) ∧
      (rest ≠ [] → rest = f.gateway.mqtt.toSender.half) := by
  have hcfg := b.settings_valid
  have hlenient := lenient_meant b (setup b present o t₀) as
  have hinv := exec_inv_of_along
    (I := fun f : Firmware => f.gateway.mqtt.Roomed Room.Honest ∧ f.gateway.mqtt.line.Framed
      (fun ps => ∀ p ∈ ps, p.Legal ((setup b present o t₀).Meant b as)) (b.settings.frame hcfg))
    (fun f a f' hf hs ha => ?_) ?_
    (((along_of_forall_mem hhonest _).and htimely).and (along_meant b (setup b present o t₀) as))
    hrun
  · obtain ⟨packets, frames, rest, hreceive, hlegal, hall, hfirst, hrest⟩ :=
      hinv.2.receive (upheld_legal hlenient) hopen
    refine ⟨frames, rest, hreceive, Frame.says_of_legal hall hlegal, fun x hx => ?_, hrest⟩
    rw [hfirst x hx, b.request_eq]
    exact Settings.read_frame hcfg
  · obtain ⟨⟨hhonest, htimely⟩, hmeant⟩ := ha
    rcases step_client hfit hs with ⟨hsame, -⟩ | ⟨x, hx, hdoes, hpublished⟩
    · rwa [hsame]
    · obtain ⟨⟨hvalid, hoffers, htimely⟩, hmeans⟩ :=
        means_of_does hfit hdoes hpublished hhonest htimely
      exact Client.framed_step (upheld_legal hlenient) hcfg hx
        (Client.welcome_of_means hcfg hvalid fun r hr => hmeant r (hmeans r hr)) hoffers htimely hf
  · rw [setup_mqtt]
    exact Client.framed_init b.settings t₀ _ fun p hp => absurd hp List.not_mem_nil

theorem fitting_homeBoard : homeBoard.Fitting :=
  Board.fitting_of_configH rfl
    (fun _ => show CString.Narrow "21.5".toList from CString.narrow_of_all rfl) roomFormat_length

set_option maxRecDepth 8192 in
theorem broker_reads_home :
    ∃ f, exec (step homeBoard) (setup homeBoard true Station.ahtOnly 0) homeRun = some f ∧
      ∃ frames rest, framing.receive f.gateway.mqtt.wire = (frames, rest) ∧
        (∀ x ∈ frames, ∃ r, x.read = some r ∧
          (setup homeBoard true Station.ahtOnly 0).Meant homeBoard homeRun r) ∧
        (∀ x ∈ frames.head?, x.read = some (.connect homeBoard.request)) ∧
        (rest ≠ [] → rest = f.gateway.mqtt.toSender.half) := by
  have hrun : exec (step homeBoard) (setup homeBoard true Station.ahtOnly 0) homeRun =
    some _ := rfl
  exact ⟨_, hrun, broker_reads fitting_homeBoard hrun (by decide) (by decide +kernel)
    (by decide +kernel)⟩

/-- **The broker gets the messages in order**, and none of them more often over one connection
than it has been published: what it gets over the open connection are messages that the firmware
has published, under the identifiers that the client has given them, in the order in which it has
published them. -/
theorem broker_in_order {present : Bool} {o : BeginOutcome} {t₀ : ℕ} (hfit : b.Fitting)
    (hrun : exec (step b) (setup b present o t₀) as = some f) (hhonest : ∀ a ∈ as, a.Honest)
    (htimely : Along (step b) (fun f a _ => f.Timely b a) (setup b present o t₀) as)
    (hopen : f.gateway.mqtt.tcp = .opened) :
    ∃ frames rest, framing.receive f.gateway.mqtt.wire = (frames, rest) ∧
      (frames.filterMap Frame.message).Sublist (f.published b) := by
  have hcfg := b.settings_valid
  have hinv := exec_inv_of_along
    (I := fun f : Firmware => f.gateway.mqtt.Roomed Room.Honest ∧ f.gateway.mqtt.line.Framed
      (InOrder (f.published b)) (b.settings.frame hcfg))
    (fun f a f' hf hs ha => ?_) ?_ ((along_of_forall_mem hhonest _).and htimely) hrun
  · obtain ⟨packets, frames, rest, hreceive, horder, hall, -, -⟩ :=
      hinv.2.receive (upheld_inOrder _) hopen
    exact ⟨frames, rest, hreceive, filterMap_message hall ▸ horder.2⟩
  · obtain ⟨hhonest, htimely⟩ := ha
    rcases step_client hfit hs with ⟨hsame, hnone⟩ | ⟨x, hx, hdoes, hpublished⟩
    · rwa [hsame, hnone]
    · obtain ⟨⟨hvalid, hoffers, htimely⟩, -⟩ :=
        means_of_does hfit hdoes hpublished hhonest htimely
      rw [hpublished]
      exact Client.inOrder_step hcfg hx hvalid hoffers htimely hf
  · rw [setup_mqtt]
    exact Client.framed_init b.settings t₀ _ ⟨fun p hp => absurd hp List.not_mem_nil, .refl _⟩

set_option maxRecDepth 8192 in
theorem broker_in_order_home :
    ∃ f, exec (step homeBoard) (setup homeBoard true Station.ahtOnly 0) homeRun = some f ∧
      ∃ frames rest, framing.receive f.gateway.mqtt.wire = (frames, rest) ∧
        (frames.filterMap Frame.message).Sublist (f.published homeBoard) := by
  have hrun : exec (step homeBoard) (setup homeBoard true Station.ahtOnly 0) homeRun =
    some _ := rfl
  exact ⟨_, hrun, broker_in_order fitting_homeBoard hrun (by decide) (by decide +kernel)
    (by decide +kernel)⟩

end Firmware

end SentinelEdge
