import Mathlib.Algebra.GroupWithZero.Nat
import Mathlib.Logic.Relation
import SentinelEdge.Mqtt.Packet

/-!
# The outgoing queue

`AsyncMqttClient` sends one packet at a time, the head of a queue, and as much of it as
the TCP connection has room for. A packet that has been sent leaves the queue when it is
*released*: at once, or, if the server has to acknowledge it, when the acknowledgement
comes. Until then nothing behind it is sent.

`_handleQueue` is a loop around `_client.space()`, which may answer differently each
time: room is made by the acknowledgements of TCP, which come in while the loop runs. A
pass that sends something asks a second time, and then hands to `_client.add()` what is
within the second answer; how much of it `add()` takes the source does not look at. The
TCP library is not part of the source, so what it says in a pass is a parameter, a
`SentinelEdge.Mqtt.Room`, and there is a list of them, one for each pass; after the last
of them there is no room. Two things the source takes for granted are named, and asked
for where they are needed: the second answer is no less than the first, because nobody
else writes to the connection (`SentinelEdge.Mqtt.Room.Steady`), and a write within the
room is taken whole (`SentinelEdge.Mqtt.Room.Honest`).

What a pass of the loop can do is said once, by `SentinelEdge.Mqtt.Sender.Move`: it
writes a part of the head, or it takes the head out of the queue. That the loop ends is
`SentinelEdge.Mqtt.Sender.handleQueueLoop_asks`: it would not if more of the head could be
marked as sent than there is, and `SentinelEdge.Mqtt.Sender.Sane` is that this never is so.
-/

namespace SentinelEdge

namespace Mqtt

open Relation

/-! ### What the TCP library says -/

/-- What the TCP library says in a pass of the loop. -/
structure Room where
  /-- `_client.space()`, asked by the condition of the loop. -/
  space : ℕ
  /-- `_client.space()`, asked again by a pass that has something to send. -/
  again : ℕ
  /-- How much of what it is handed `_client.add()` takes at most. -/
  taken : ℕ
  deriving DecidableEq

namespace Room

/-- **The room does not shrink** between the two questions. -/
def Steady (room : Room) : Prop := room.space ≤ room.again

/-- **A write within the room is taken whole.** -/
def Honest (room : Room) : Prop := room.again ≤ room.taken

instance (room : Room) : Decidable room.Steady := inferInstanceAs (Decidable (_ ≤ _))

instance (room : Room) : Decidable room.Honest := inferInstanceAs (Decidable (_ ≤ _))

/-- There are `n` bytes of room all through the pass. -/
def of (n : ℕ) : Room := ⟨n, n, n⟩

end Room

/-! ### The queue and the loop -/

/-- What `_handleQueue` works on. -/
structure Sender where
  /-- The packets from `_head` to `_tail`. -/
  queue : List OutPacket
  /-- `_sent`: how much of the head has been sent. -/
  sent : ℕ
  /-- `_lastClientActivity`. -/
  lastClientActivity : UInt32
  /-- `_lastPingRequestTime`, zero if no ping is pending. -/
  lastPingRequestTime : UInt32
  /-- The bytes written to the TCP connection since it was opened. -/
  wire : List UInt8

namespace Sender

/-- The part of the head that has been sent. -/
def half (s : Sender) : List UInt8 :=
  match s.queue with
  | [] => []
  | head :: _ => head.data.take s.sent

/-- No more is marked as sent than there is. -/
def Sane (s : Sender) : Prop :=
  match s.queue with
  | [] => s.sent = 0
  | head :: _ => s.sent ≤ head.size

/-- Nothing can be sent: the queue is empty, or its head waits for an acknowledgement. -/
def Idle (s : Sender) : Prop :=
  match s.queue with
  | [] => True
  | head :: _ => s.sent = head.size ∧ head.released = false

/-- What fits of the head is written. It counts as sent, whether it is taken or not. -/
def write (now : UInt32) (head : OutPacket) (room : Room) (s : Sender) : Sender :=
  let willSend := min (head.size - s.sent) room.again
  { s with
    sent := s.sent + willSend
    lastClientActivity := now
    lastPingRequestTime := 0
    wire := s.wire ++ (head.data.drop s.sent).take (min willSend room.taken) }

/-- The first part of a pass. -/
def trySend (now : UInt32) (head : OutPacket) (room : Room) (s : Sender) : Sender :=
  if s.sent < head.size then s.write now head room else s

/-- The head leaves the queue. -/
def pop (next : List OutPacket) (s : Sender) : Sender := { s with queue := next, sent := 0 }

end Sender

/-- The loop of `_handleQueue`, with what the TCP library is going to say: what it leaves,
the answers it did not ask for, and whether a DISCONNECT was written. -/
def handleQueueLoop (now : UInt32) : List Room → Sender → Bool → Sender × List Room × Bool
  | [], s, disconnect => (s, [], disconnect)
  | room :: rooms, s, disconnect =>
    match s.queue with
    | [] => (s, room :: rooms, disconnect)
    | head :: next =>
      -- send at least 10 bytes
      if room.space ≤ 10 then (s, rooms, disconnect)
      else
        -- 1. try to send
        let disconnect := disconnect ||
          (decide (s.sent < head.size) && head.packetType == PacketType.DISCONNECT)
        let s := s.trySend now head room
        -- 2. stop processing when we have to wait for an MQTT acknowledgment
        if head.size = s.sent then
          if head.released then handleQueueLoop now rooms (s.pop next) disconnect
          else (s, rooms, disconnect)
        else handleQueueLoop now rooms s disconnect

/-- What `_clearQueue` does with a packet when it keeps the session. -/
def retain (sent : ℕ) (packet : OutPacket) : Option OutPacket :=
  if packet.qos > 0 ∧ packet.size ≤ sent then some packet.setDup
  else if packet.qos > 0 ∨ packet.packetType = PacketType.PUBREC ∨
      packet.packetType = PacketType.PUBCOMP then some packet
  else none

/-- `_clearQueue`. What it keeps it puts back with `_addBack`, which sends nothing: the
session is kept only when the connection is gone. -/
def Sender.clearQueue (keepSessionData : Bool) (s : Sender) : Sender :=
  { s with
    queue := if keepSessionData then s.queue.filterMap (retain s.sent) else []
    sent := 0 }

/-! ### What a pass can do -/

namespace Sender

/-- **What a pass can do**, where `R` is what is known of the TCP library. -/
inductive Move (now : UInt32) (R : Room → Prop) : Sender → Sender → Prop where
  /-- A part of the head is written. -/
  | write {s : Sender} {head : OutPacket} {next : List OutPacket} (room : Room)
      (hqueue : s.queue = head :: next) (hsent : s.sent < head.size)
      (hspace : 10 < room.space) (hroom : R room) : Move now R s (s.write now head room)
  /-- The head has been sent and is released. -/
  | pop {s : Sender} {head : OutPacket} {next : List OutPacket}
      (hqueue : s.queue = head :: next) (hsent : s.sent = head.size)
      (hreleased : head.released = true) : Move now R s (s.pop next)

variable {now : UInt32} {R : Room → Prop} {s s' : Sender}

/-- After a write, the head is still there. -/
@[simp] theorem write_queue (head : OutPacket) (room : Room) :
    (s.write now head room).queue = s.queue := rfl

@[simp] theorem write_sent (head : OutPacket) (room : Room) :
    (s.write now head room).sent = s.sent + min (head.size - s.sent) room.again := rfl

/-- If the TCP library is honest, what counts as sent is on the wire. -/
theorem write_wire (head : OutPacket) {room : Room} (h : room.Honest) :
    (s.write now head room).wire =
      s.wire ++ (head.data.drop s.sent).take (min (head.size - s.sent) room.again) := by
  have htaken : min (min (head.size - s.sent) room.again) room.taken =
      min (head.size - s.sent) room.again :=
    Nat.min_eq_left (Nat.le_trans (Nat.min_le_right _ _) h)
  rw [write, htaken]

@[simp] theorem trySend_queue (now : UInt32) (head : OutPacket) (room : Room) :
    (s.trySend now head room).queue = s.queue := by
  rw [trySend]
  split <;> rfl

theorem trySend_moves (now : UInt32) {head : OutPacket} {next : List OutPacket} {room : Room}
    (hqueue : s.queue = head :: next) (hspace : 10 < room.space) (hroom : R room) :
    ReflTransGen (Move now R) s (s.trySend now head room) := by
  rw [trySend]
  split
  · rename_i hsent
    exact .single (.write room hqueue hsent hspace hroom)
  · exact .refl

/-- **The loop is a sequence of moves.** -/
theorem moves_handleQueueLoop (now : UInt32) {rooms : List Room} (hrooms : ∀ r ∈ rooms, R r)
    (s : Sender) (disconnect : Bool) :
    ReflTransGen (Move now R) s (handleQueueLoop now rooms s disconnect).1 := by
  induction rooms generalizing s disconnect with
  | nil => exact .refl
  | cons room rooms ih =>
    obtain ⟨hroom, hrooms⟩ := List.forall_mem_cons.mp hrooms
    rw [handleQueueLoop]
    split
    · exact .refl
    · rename_i head next hqueue
      split
      · exact .refl
      · rename_i hspace
        have hsend := trySend_moves now hqueue (Nat.not_le.mp hspace) hroom
        have hqueue' := (s.trySend_queue now head room).trans hqueue
        simp only
        generalize s.trySend now head room = t at hsend hqueue'
        split
        · rename_i hsent
          split
          · rename_i hreleased
            exact (hsend.tail (.pop hqueue' hsent.symm hreleased)).trans (ih hrooms _ _)
          · exact hsend
        · exact hsend.trans (ih hrooms _ _)

theorem Move.mem_of_waiting (h : Move now R s s') {p : OutPacket} (hwait : p.released = false)
    (hp : p ∈ s.queue) : p ∈ s'.queue := by
  cases h with
  | write room hqueue hsent hspace hroom => exact hp
  | @pop head next hqueue hsent hreleased =>
    rw [hqueue] at hp
    rcases List.mem_cons.mp hp with rfl | hnext
    · rw [hwait] at hreleased
      cases hreleased
    · exact hnext

/-- **A packet that waits for an acknowledgement** is still there when the loop is done. -/
theorem mem_handleQueueLoop_of_waiting (now : UInt32) (rooms : List Room) (disconnect : Bool)
    {p : OutPacket} (hwait : p.released = false) (hp : p ∈ s.queue) :
    p ∈ (handleQueueLoop now rooms s disconnect).1.queue := by
  have hmoves : ReflTransGen (Move now fun _ => True) s
      (handleQueueLoop now rooms s disconnect).1 :=
    moves_handleQueueLoop now (fun _ _ => trivial) s disconnect
  generalize (handleQueueLoop now rooms s disconnect).1 = t at hmoves
  induction hmoves with
  | refl => exact hp
  | tail _ hmove ih => exact hmove.mem_of_waiting hwait ih

/-- Without a DISCONNECT in the queue, none is written. -/
theorem handleQueueLoop_of_forall_ne (now : UInt32) (rooms : List Room)
    (h : ∀ p ∈ s.queue, p.packetType ≠ PacketType.DISCONNECT) :
    (handleQueueLoop now rooms s false).2.2 = false := by
  induction rooms generalizing s with
  | nil => rfl
  | cons room rooms ih =>
    rw [handleQueueLoop]
    split
    · rfl
    · rename_i head next hqueue
      rw [hqueue] at h
      obtain ⟨hhead, hnext⟩ := List.forall_mem_cons.mp h
      have hnone : (false || (decide (s.sent < head.size) &&
          head.packetType == PacketType.DISCONNECT)) = false := by
        simp [hhead]
      have hqueue' := (s.trySend_queue now head room).trans hqueue
      simp only [hnone]
      split
      · rfl
      · generalize s.trySend now head room = t at hqueue'
        split
        · split
          · exact ih hnext
          · rfl
        · refine ih ?_
          rw [hqueue']
          exact h

/-- **What the loop has not asked for** is the rest of what it was given. -/
theorem mem_of_mem_handleQueueLoop (now : UInt32) {rooms : List Room} (s : Sender)
    (disconnect : Bool) {r : Room} (h : r ∈ (handleQueueLoop now rooms s disconnect).2.1) :
    r ∈ rooms := by
  induction rooms generalizing s disconnect with
  | nil => exact h
  | cons room rooms ih =>
    rw [handleQueueLoop] at h
    split at h
    · exact h
    · split at h
      · exact List.mem_cons_of_mem room h
      · simp only at h
        split at h
        · split at h
          · exact List.mem_cons_of_mem room (ih _ _ h)
          · exact List.mem_cons_of_mem room h
        · exact List.mem_cons_of_mem room (ih _ _ h)

theorem Sane.write (h : s.Sane) {head : OutPacket} {next : List OutPacket}
    (hqueue : s.queue = head :: next) (room : Room) : (s.write now head room).Sane := by
  have hle : s.sent ≤ head.size := by
    rw [Sane, hqueue] at h
    exact h
  rw [Sane, write_queue, hqueue, write_sent]
  show _ ≤ _
  omega

theorem Sane.pop (next : List OutPacket) : (s.pop next).Sane := by
  rw [Sane]
  cases next with
  | nil => rfl
  | cons head next => exact Nat.zero_le _

/-- **A move keeps the count right.** -/
theorem Move.sane (h : Move now R s s') (hs : s.Sane) : s'.Sane := by
  cases h with
  | write room hqueue hsent hspace hroom => exact hs.write hqueue room
  | pop hqueue hsent hreleased => exact Sane.pop _

/-! ### The loop ends -/

/-- What is left to do: every byte that is not sent yet, and taking each packet out. -/
def work (s : Sender) : ℕ := (s.queue.map fun p => p.size + 1).sum - s.sent

/-- There is less to do when the head leaves the queue. -/
theorem work_pop_lt (h : s.Sane) {head : OutPacket} {next : List OutPacket}
    (hqueue : s.queue = head :: next) : (s.pop next).work < s.work := by
  rw [Sane, hqueue] at h
  have hle : s.sent ≤ head.size := h
  rw [work, work, hqueue, List.map_cons, List.sum_cons]
  show (next.map _).sum - 0 < _
  omega

/-- A pass that leaves a part of the head has written something. -/
theorem work_trySend_lt (now : UInt32) (h : s.Sane) {head : OutPacket} {next : List OutPacket}
    {room : Room} (hqueue : s.queue = head :: next) (hspace : 10 < room.space)
    (hsteady : room.Steady) (hrest : head.size ≠ (s.trySend now head room).sent) :
    (s.trySend now head room).Sane ∧ (s.trySend now head room).work < s.work := by
  have hagain : 10 < room.again := Nat.lt_of_lt_of_le hspace hsteady
  rw [trySend] at hrest ⊢
  by_cases hsent : s.sent < head.size
  · rw [if_pos hsent] at hrest ⊢
    refine ⟨h.write hqueue room, ?_⟩
    rw [work, work, write_queue, write_sent, hqueue, List.map_cons, List.sum_cons]
    omega
  · -- all of it was sent before
    rw [if_neg hsent] at hrest
    rw [Sane, hqueue] at h
    have hle : s.sent ≤ head.size := h
    omega

/-- **The loop does not go on for ever**: whatever room there is, if only it does not shrink
within a pass, the loop asks no more often than there is something to do. -/
theorem handleQueueLoop_asks (now : UInt32) {rooms : List Room}
    (hsteady : ∀ r ∈ rooms, r.Steady) (h : s.Sane) (disconnect : Bool) :
    rooms.length ≤ (Mqtt.handleQueueLoop now rooms s disconnect).2.1.length + s.work + 1 := by
  induction rooms generalizing s disconnect with
  | nil => exact Nat.zero_le _
  | cons room rooms ih =>
    obtain ⟨hroom, hrooms⟩ := List.forall_mem_cons.mp hsteady
    rw [Mqtt.handleQueueLoop, List.length_cons]
    split
    · rw [List.length_cons]
      omega
    · rename_i head next hqueue
      split
      · show rooms.length + 1 ≤ rooms.length + s.work + 1
        omega
      · rename_i hspace
        have hpop := work_pop_lt h hqueue
        simp only
        split
        · split
          · have hrec := ih hrooms (Sane.pop (s := s.trySend now head room) next)
              (disconnect ||
                (decide (s.sent < head.size) && head.packetType == PacketType.DISCONNECT))
            have hsame : ((s.trySend now head room).pop next).work = (s.pop next).work := rfl
            omega
          · show rooms.length + 1 ≤ rooms.length + s.work + 1
            omega
        · rename_i hrest
          obtain ⟨hsane, hless⟩ := work_trySend_lt now h hqueue (Nat.not_le.mp hspace) hroom hrest
          have hrec := ih hrooms hsane
            (disconnect ||
              (decide (s.sent < head.size) && head.packetType == PacketType.DISCONNECT))
          omega

/-- **With room enough, nothing is left that could be sent.** -/
theorem handleQueueLoop_idle (now : UInt32) {rooms : List Room} (h : s.Sane) (disconnect : Bool)
    (henough : s.work < rooms.length) (hspace : ∀ r ∈ rooms, 10 < r.space)
    (hsteady : ∀ r ∈ rooms, r.Steady) :
    (Mqtt.handleQueueLoop now rooms s disconnect).1.Idle := by
  induction rooms generalizing s disconnect with
  | nil => exact absurd henough (Nat.not_lt_zero _)
  | cons room rooms ih =>
    obtain ⟨hspace, hspaces⟩ := List.forall_mem_cons.mp hspace
    obtain ⟨hroom, hrooms⟩ := List.forall_mem_cons.mp hsteady
    rw [List.length_cons] at henough
    rw [Mqtt.handleQueueLoop]
    split
    · rename_i hqueue
      rw [Idle, hqueue]
      trivial
    · rename_i head next hqueue
      rw [if_neg (Nat.not_le.mpr hspace)]
      simp only
      split
      · rename_i hsent
        split
        · have hpop := work_pop_lt h hqueue
          refine ih (Sane.pop next) _ ?_ hspaces hrooms
          show (s.pop next).work < _
          omega
        · rename_i hreleased
          rw [Idle, trySend_queue, hqueue]
          exact ⟨hsent.symm, Bool.eq_false_iff.mpr hreleased⟩
      · rename_i hrest
        obtain ⟨hsane, hless⟩ := work_trySend_lt now h hqueue hspace hroom hrest
        exact ih hsane _ (by omega) hspaces hrooms

/-! ### What is on the wire -/

/-- **Nothing is lost and nothing is made up**, if the TCP library is honest. What has been
sent and what is in the queue make up the same packets before a move and after it, and the
wire has the bytes of those that have been sent, and the sent part of the head. Only what
was released has been sent and is gone. -/
theorem Move.wire (h : Move now R s s') (hR : ∀ r, R r → r.Honest) {done : List OutPacket}
    (hwire : s.wire = done.flatMap OutPacket.data ++ s.half) :
    ∃ done', done' ++ s'.queue = done ++ s.queue ∧
      s'.wire = done'.flatMap OutPacket.data ++ s'.half ∧
      ∀ p ∈ done', p ∈ done ∨ p.released = true := by
  cases h with
  | @write head next room hqueue hsent hspace hroom =>
    refine ⟨done, rfl, ?_, fun p hp => Or.inl hp⟩
    have hhalf : s.half = head.data.take s.sent := by rw [half, hqueue]
    have hhalf' :
        (s.write now head room).half = head.data.take (s.write now head room).sent := by
      rw [half, write_queue, hqueue]
    rw [hhalf', write_wire head (hR room hroom), write_sent, hwire, hhalf, List.append_assoc,
      List.take_add]
  | @pop head next hqueue hsent hreleased =>
    refine ⟨done ++ [head], ?_, ?_, ?_⟩
    · rw [hqueue, List.append_assoc]
      rfl
    · have hhalf : s.half = head.data := by
        rw [half, hqueue]
        show head.data.take s.sent = _
        rw [hsent]
        exact List.take_length
      have hhalf' : (s.pop next).half = [] := by
        rw [half]
        cases next <;> rfl
      rw [hhalf', List.append_nil, List.flatMap_append, List.flatMap_singleton, ← hhalf]
      exact hwire
    · intro p hp
      rcases List.mem_append.mp hp with hp | hp
      · exact Or.inl hp
      · rw [List.mem_singleton.mp hp]
        exact Or.inr hreleased

end Sender

/-! ### What is kept when the connection is gone -/

theorem pos_qos_bits_iff (b : UInt8) : (b &&& 0x06) >>> 1 > 0 ↔ 2 ≤ b.toNat % 8 := by
  have h : ∀ n : Fin 256, (UInt8.ofNat n.val &&& 0x06) >>> 1 > 0 ↔ 2 ≤ n.val % 8 := by
    decide +kernel
  have hb := h ⟨b.toNat, b.toNat_lt⟩
  rwa [UInt8.ofNat_toNat] at hb

section

variable (type flags : UInt8) (n : UInt32) (rest : List UInt8) (released : Bool)
  (packetId : UInt16)

theorem packetType_outPacket :
    (outPacket type flags n rest released packetId).packetType = (type <<< 4 ||| flags) >>> 4 :=
  rfl

/-- The byte that `qos` looks at is the first one of the remaining length. -/
theorem toNat_get_one_mod :
    ((outPacket type flags n rest released packetId).data.get
      ⟨1, (outPacket type flags n rest released packetId).two_le⟩).toNat % 8 = n.toNat % 8 := by
  obtain ⟨b, bs, hb⟩ := List.exists_cons_of_ne_nil (VarInt.encode_ne_nil n.toNat)
  have hget : (outPacket type flags n rest released packetId).data[1]? = some b := by
    simp [outPacket, fixedHeader, encodeRemainingLength_eq, hb]
  obtain ⟨hlt, hget'⟩ := List.getElem?_eq_some_iff.mp hget
  have hhead : b = UInt8.ofNat (if n.toNat < 128 then n.toNat else n.toNat % 128 + 128) := by
    rw [← VarInt.head_encode]
    simp only [hb, List.head_cons]
  rw [List.get_eq_getElem]
  show (outPacket type flags n rest released packetId).data[1].toNat % 8 = _
  rw [hget', hhead, UInt8.toNat_ofNat']
  split <;> omega

theorem pos_qos_outPacket_iff (htype : (type <<< 4 ||| flags) >>> 4 = PacketType.PUBLISH) :
    (outPacket type flags n rest released packetId).qos > 0 ↔ 2 ≤ n.toNat % 8 := by
  rw [OutPacket.qos, packetType_outPacket, if_pos htype, pos_qos_bits_iff, toNat_get_one_mod]

end

/-- What is kept is the packet, or the packet with its flag set. -/
theorem eq_of_retain {sent : ℕ} {p q : OutPacket} (h : retain sent p = some q) :
    q = p ∨ q = p.setDup := by
  rw [retain] at h
  split at h
  · exact Or.inr (Option.some.inj h).symm
  · split at h
    · exact Or.inl (Option.some.inj h).symm
    · cases h

theorem publishFlags_shift (qos : UInt8) (retain : Bool) :
    (PacketType.PUBLISH <<< 4 ||| publishFlags qos retain) >>> 4 = PacketType.PUBLISH := by
  unfold publishFlags
  split <;> split <;> decide

/-- **Which messages are kept.** The quality of service does not matter: what `qos` reads is
a part of the length. -/
theorem isSome_retain_publish (m : Message) (packetId : UInt16) (sent : ℕ) :
    (retain sent (publishOutPacket m packetId)).isSome ↔ 2 ≤ m.remainingLength.toNat % 8 := by
  have htype := publishFlags_shift m.qos m.retain
  have hqos : (publishOutPacket m packetId).qos > 0 ↔ 2 ≤ m.remainingLength.toNat % 8 :=
    pos_qos_outPacket_iff _ _ _ _ _ _ htype
  have hpublish : (publishOutPacket m packetId).packetType = PacketType.PUBLISH := htype
  have hother :
      ¬(PacketType.PUBLISH = PacketType.PUBREC ∨ PacketType.PUBLISH = PacketType.PUBCOMP) := by
    decide
  rw [retain, hpublish]
  by_cases hlen : 2 ≤ m.remainingLength.toNat % 8
  · have hpos := hqos.mpr hlen
    split
    · exact iff_of_true rfl hlen
    · rw [if_pos (Or.inl hpos)]
      exact iff_of_true rfl hlen
  · have hzero : ¬(publishOutPacket m packetId).qos > 0 := fun h => hlen (hqos.mp h)
    rw [if_neg fun h => hzero h.1, if_neg fun h => h.elim hzero hother]
    exact iff_of_false (by decide) hlen

end Mqtt

end SentinelEdge
