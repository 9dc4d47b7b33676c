import SentinelEdge.Mqtt.Parser

/-!
# The parser does not care where TCP cuts

The bytes that a server sends arrive in pieces, and `_onData` is called with one piece
after the other. The parser is a machine that goes from byte to byte, with one exception:
in the payload of a message a pass takes all the bytes there are. So the calls of the
handlers do depend on the pieces, but only in how the payload of a message is cut
(`SentinelEdge.Mqtt.Event.explode`).

The plain path is `SentinelEdge.Mqtt.Parser.Reads`, which goes from byte to byte.
`SentinelEdge.Mqtt.Parser.exists_pass` is that a pass agrees with it, whatever piece of the
bytes is there, and leaves the rest to the passes that follow. What the whole client makes of
it is in `SentinelEdge.Mqtt.Delivery`.
-/

namespace SentinelEdge

namespace Mqtt

/-! ### Two ways to read -/

namespace Parser

/-- Within a payload, it is not at its end, and it is not as long as no packet can be. -/
def Bounded (p : Parser) : Prop :=
  ∀ q, p.bufferState = .payload → p.current = some (.publish q) →
    q.payloadBytesRead < q.payloadLength ∧ q.payloadLength.toNat < 2 ^ 28

/-- **Reading byte by byte**: what the client is told, and what the parser is then. -/
inductive Reads : Parser → List UInt8 → List Event → Parser → Prop where
  /-- Nothing is read. -/
  | nil (p : Parser) : Reads p [] [] p
  /-- A byte is read, and then the rest. -/
  | cons {p p' p'' : Parser} {b : UInt8} {bs : List UInt8} {es es' : List Event}
      (hbounded : p.Bounded) (h : p.step b [] = .ok (p', es, [])) (hrest : Reads p' bs es' p'') :
      Reads p (b :: bs) (es ++ es') p''

theorem Reads.append {p p' p'' : Parser} {bs bs' : List UInt8} {es es' : List Event}
    (h : Reads p bs es p') (h' : Reads p' bs' es' p'') : Reads p (bs ++ bs') (es ++ es') p'' := by
  induction h with
  | nil p => exact h'
  | cons hbounded hstep hrest ih =>
    rw [List.append_assoc]
    exact .cons hbounded hstep (ih h')

/-- A byte that nothing is told of. -/
theorem Reads.skip {p p' p'' : Parser} {b : UInt8} {bs : List UInt8} {es : List Event}
    (hbounded : p.Bounded) (h : p.step b [] = .ok (p', [], [])) (hrest : Reads p' bs es p'') :
    Reads p (b :: bs) es p'' := by
  have hread := Reads.cons hbounded h hrest
  rwa [List.nil_append] at hread

end Parser

/-- The bytes of a payload, one by one. -/
def Chunk.pieces (c : Chunk) : UInt32 → List UInt8 → List Event
  | _, [] => []
  | index, b :: bs => .message { c with payload := [b], index := index } :: c.pieces (index + 1) bs

/-- An event, with a payload byte by byte. -/
def Event.explode : Event → List Event
  | .message c => if c.payload = [] then [.message c] else c.pieces c.index c.payload
  | e => [e]

/-- **Two lists of events that differ only in how payloads are cut** are the same list when
every payload is cut into bytes. -/
def explodeAll (es : List Event) : List Event := es.flatMap Event.explode

@[simp] theorem explodeAll_append (es es' : List Event) :
    explodeAll (es ++ es') = explodeAll es ++ explodeAll es' := List.flatMap_append

@[simp] theorem explodeAll_nil : explodeAll [] = [] := rfl

namespace Parser

variable {p p' : Parser} {q : PublishPacket} {b : UInt8} {bs rest : List UInt8} {es : List Event}

/-! ### A pass that takes one byte -/

/-- Outside of the payload of a message, a pass does not look ahead. -/
theorem step_of_not_payload (h : ∀ q, ¬(p.bufferState = .payload ∧ p.current = some (.publish q)))
    (b : UInt8) (rest : List UInt8) :
    p.step b rest = (p.step b []).map fun r => (r.1, r.2.1, rest) := by
  have hmap : ∀ x : Except Fault (Parser × List Event),
      (x.map fun t => (t.1, t.2, rest)) =
        (x.map fun t => (t.1, t.2, ([] : List UInt8))).map fun r => (r.1, r.2.1, rest) := by
    rintro (f | t) <;> rfl
  rw [step, step]
  cases hstate : p.bufferState with
  | none => rfl
  | remainingLength => exact hmap _
  | variableHeader => exact hmap _
  | payload =>
    cases hcurrent : p.current with
    | none => rfl
    | some c =>
      cases c with
      | publish q => exact absurd ⟨hstate, hcurrent⟩ (h q)
      | _ => rfl

/-- In the payload of a message, a pass takes what there is. -/
theorem step_of_payload (hstate : p.bufferState = .payload)
    (hcurrent : p.current = some (.publish q)) (b : UInt8) (rest : List UInt8) :
    p.step b rest = .ok (p.parsePublishPayload q (b :: rest)) := by
  rw [step, hstate, hcurrent]

theorem eq_of_step_payload {r : Parser × List Event × List UInt8} (hr : p.step b rest = .ok r)
    (hstate : p.bufferState = .payload) (hcurrent : p.current = some (.publish q)) :
    r = p.parsePublishPayload q (b :: rest) :=
  (Except.ok.inj ((step_of_payload hstate hcurrent b rest).symm.trans hr)).symm

/-- How much a pass takes, if one byte is taken before it. -/
theorem remainToRead_cons {b' : UInt8} (hlt : q.payloadBytesRead < q.payloadLength)
    (hbound : q.payloadLength.toNat < 2 ^ 28) (hsize : rest.length + 2 < 2 ^ 31)
    (hmore : q.payloadBytesRead + 1 ≠ q.payloadLength) :
    (remainToRead q (b :: b' :: rest)).toNat =
        (remainToRead { q with payloadBytesRead := q.payloadBytesRead + 1 } (b' :: rest)).toNat +
          1 ∧
      q.payloadBytesRead + 1 < q.payloadLength := by
  have hlt' := UInt32.lt_iff_toNat_lt.mp hlt
  have hone : (q.payloadBytesRead + 1).toNat = q.payloadBytesRead.toNat + 1 := by
    rw [UInt32.toNat_add]
    exact Nat.mod_eq_of_lt (by show _ + 1 < _; omega)
  have hnext : q.payloadBytesRead + 1 < q.payloadLength := by
    rw [UInt32.lt_iff_toNat_lt, hone]
    have : (q.payloadBytesRead + 1).toNat ≠ q.payloadLength.toNat := fun h =>
      hmore (UInt32.toNat_inj.mp h)
    omega
  refine ⟨?_, hnext⟩
  rw [remainToRead_eq hlt (by simp only [List.length_cons]; omega),
    remainToRead_eq (q := { q with payloadBytesRead := q.payloadBytesRead + 1 }) hnext
      (by simp only [hone, List.length_cons]; omega), taken, taken]
  simp only [hone, List.length_cons]
  omega

/-- A payload that is not empty, byte by byte. -/
theorem explode_chunk (p : Parser) (q : PublishPacket) {xs : List UInt8} (hxs : xs ≠ []) :
    Event.explode (.message (p.chunk q xs)) = (p.chunk q xs).pieces q.payloadBytesRead xs :=
  if_neg hxs

/-- The first byte of a chunk, and the rest of it. -/
theorem explode_chunk_cons (p : Parser) (q : PublishPacket) (b : UInt8) {xs : List UInt8}
    (hxs : xs ≠ []) (c : Option CurrentPacket) :
    Event.explode (.message (p.chunk q (b :: xs))) =
      Event.explode (.message (p.chunk q [b])) ++
        Event.explode (.message ({ p with current := c }.chunk
          { q with payloadBytesRead := q.payloadBytesRead + 1 } xs)) := by
  have hpieces : ∀ (i : UInt32) (ys : List UInt8),
      (p.chunk q (b :: xs)).pieces i ys = ({ p with current := c }.chunk
        { q with payloadBytesRead := q.payloadBytesRead + 1 } xs).pieces i ys := by
    intro i ys
    induction ys generalizing i with
    | nil => rfl
    | cons y ys ih =>
      rw [Chunk.pieces, Chunk.pieces, ih]
      rfl
  rw [explode_chunk p q (List.cons_ne_nil b xs), explode_chunk p q (List.cons_ne_nil b []),
    explode_chunk _ _ hxs, Chunk.pieces, hpieces]
  rfl

/-- **One byte of a payload, and then the rest**, is the payload. -/
theorem parsePublishPayload_cons (b' : UInt8) (rest : List UInt8)
    (hlt : q.payloadBytesRead < q.payloadLength)
    (hbound : q.payloadLength.toNat < 2 ^ 28) (hsize : rest.length + 2 < 2 ^ 31)
    (hmore : q.payloadBytesRead + 1 ≠ q.payloadLength) :
    let q' : PublishPacket := { q with payloadBytesRead := q.payloadBytesRead + 1 }
    let p' : Parser := { p with current := some (.publish q') }
    let r := p.parsePublishPayload q (b :: b' :: rest)
    let r' := p'.parsePublishPayload q' (b' :: rest)
    p.parsePublishPayload q [b] =
        (p', if q.ignore then [] else [.message (p.chunk q [b])], []) ∧
      r.1 = r'.1 ∧ r.2.2 = r'.2.2 ∧
        explodeAll r.2.1 =
          explodeAll (if q.ignore then [] else [.message (p.chunk q [b])]) ++
            explodeAll r'.2.1 := by
  have hone : (remainToRead q [b]).toNat = 1 := by
    have hlt' := UInt32.lt_iff_toNat_lt.mp hlt
    rw [remainToRead_eq hlt (by simp only [List.length_singleton]; omega), taken,
      List.length_singleton]
    omega
  have hone' : remainToRead q [b] = 1 := UInt32.toNat_inj.mp hone
  obtain ⟨hread, hlt'⟩ := remainToRead_cons (b := b) hlt hbound hsize hmore
  obtain ⟨hpos, -⟩ := remainToRead_pos
    (q := { q with payloadBytesRead := q.payloadBytesRead + 1 }) hlt' (List.cons_ne_nil b' rest)
    (by rw [List.length_cons]; omega)
  have hsum : q.payloadBytesRead + remainToRead q (b :: b' :: rest) =
      q.payloadBytesRead + 1 +
        remainToRead { q with payloadBytesRead := q.payloadBytesRead + 1 } (b' :: rest) := by
    rw [UInt32.add_assoc]
    refine congrArg (q.payloadBytesRead + ·) (UInt32.toNat_inj.mp ?_)
    have hlt32 := (remainToRead q (b :: b' :: rest)).toNat_lt
    have honeNat : (1 : UInt32).toNat = 1 := rfl
    rw [UInt32.toNat_add, honeNat, hread]
    omega
  have htake : (b :: b' :: rest).take (remainToRead q (b :: b' :: rest)).toNat =
      b :: (b' :: rest).take
        (remainToRead { q with payloadBytesRead := q.payloadBytesRead + 1 }
          (b' :: rest)).toNat := by
    rw [hread, List.take_succ_cons]
  have hdrop : (b :: b' :: rest).drop (remainToRead q (b :: b' :: rest)).toNat =
      (b' :: rest).drop
        (remainToRead { q with payloadBytesRead := q.payloadBytesRead + 1 }
          (b' :: rest)).toNat := by
    rw [hread, List.drop_succ_cons]
  have hxs : (b' :: rest).take
      (remainToRead { q with payloadBytesRead := q.payloadBytesRead + 1 } (b' :: rest)).toNat ≠
        [] := by
    intro hnil
    have := congrArg List.length hnil
    rw [List.length_take, List.length_cons, List.length_nil] at this
    omega
  refine ⟨?_, ?_⟩
  · rw [parsePublishPayload, hone']
    exact if_neg hmore
  · simp only [parsePublishPayload, htake, hdrop, hsum]
    generalize remainToRead { q with payloadBytesRead := q.payloadBytesRead + 1 }
      (b' :: rest) = n at hxs
    have hcut := explode_chunk_cons p q b hxs
      (some (.publish { q with payloadBytesRead := q.payloadBytesRead + 1 }))
    split
    · simp only [completePublish]
      by_cases hignore : q.ignore
      · simp [hignore]
      · simp [hignore, explodeAll, hcut]
    · by_cases hignore : q.ignore
      · simp [hignore]
      · simp [hignore, explodeAll, hcut]

/-- **A pass**, of a parser that could read everything byte by byte: it agrees with what the
bytes say, and leaves a part of them for later. -/
theorem exists_pass (hread : Reads p (b :: rest ++ bs) es p') (hsize : rest.length + 1 < 2 ^ 31) :
    ∃ r es', p.step b rest = .ok r ∧ Reads r.1 (r.2.2 ++ bs) es' p' ∧
      explodeAll r.2.1 ++ explodeAll es' = explodeAll es ∧ r.2.2.length ≤ rest.length := by
  induction rest generalizing p b es with
  | nil =>
    cases hread with
    | cons hbounded hstep hrest =>
      exact ⟨_, _, hstep, hrest, (explodeAll_append _ _).symm, Nat.le_refl _⟩
  | cons b' rest ih =>
    cases hread with
    | @cons _ p₁ _ _ _ es₁ es₂ hbounded hstep hrest =>
      by_cases hpayload : ∃ q, p.bufferState = .payload ∧ p.current = some (.publish q)
      · obtain ⟨q, hstate, hcurrent⟩ := hpayload
        obtain ⟨hlt, hbound⟩ := hbounded q hstate hcurrent
        rw [step_of_payload hstate hcurrent] at hstep ⊢
        rw [List.length_cons] at hsize
        by_cases hend : q.payloadBytesRead + 1 = q.payloadLength
        · -- the byte is the last one of the payload
          have htaken : ∀ xs : List UInt8, xs.length + 1 < 2 ^ 31 →
              (remainToRead q (b :: xs)).toNat = 1 := by
            intro xs hxs
            have hlt' := UInt32.lt_iff_toNat_lt.mp hlt
            have hone : q.payloadLength.toNat = q.payloadBytesRead.toNat + 1 := by
              rw [← hend, UInt32.toNat_add]
              exact Nat.mod_eq_of_lt (by show _ + 1 < _; omega)
            rw [remainToRead_eq hlt (by simp only [List.length_cons]; omega), taken,
              List.length_cons]
            omega
          have hsame : p.parsePublishPayload q (b :: b' :: rest) =
              ((p.parsePublishPayload q [b]).1, (p.parsePublishPayload q [b]).2.1, b' :: rest) := by
            have hnil := htaken [] (by decide)
            have hcons := htaken (b' :: rest) (by rw [List.length_cons]; exact hsize)
            have hread : remainToRead q (b :: b' :: rest) = remainToRead q [b] :=
              UInt32.toNat_inj.mp (hcons.trans hnil.symm)
            simp only [parsePublishPayload, hread, hnil, List.take_succ_cons, List.take_zero,
              List.drop_succ_cons, List.drop_zero]
            split <;> rfl
          obtain ⟨rfl, hes, -⟩ : (p.parsePublishPayload q [b]).1 = p₁ ∧
              (p.parsePublishPayload q [b]).2.1 = es₁ ∧ _ := by
            have := Except.ok.inj hstep
            rw [this]
            exact ⟨rfl, rfl, trivial⟩
          refine ⟨_, es₂, rfl, ?_, ?_, ?_⟩
          · rw [hsame]
            exact hrest
          · rw [hsame, explodeAll_append, ← hes]
          · rw [hsame]
        · -- there is more of it
          obtain ⟨hfirst, hparser, hleft, hevents⟩ := parsePublishPayload_cons (p := p) (b := b)
            b' rest hlt hbound (by omega) hend
          rw [hfirst] at hstep
          obtain ⟨rfl, rfl, -⟩ := Prod.mk.injEq .. ▸ Except.ok.inj hstep
          obtain ⟨r, es', hr, hreads, hsplit, hlength⟩ := ih hrest (by omega)
          obtain rfl := eq_of_step_payload hr hstate rfl
          refine ⟨_, es', rfl, ?_, ?_, ?_⟩
          · rw [hparser, hleft]
            exact hreads
          · rw [hevents, explodeAll_append, ← hsplit, List.append_assoc]
          · rw [hleft, List.length_cons]
            exact Nat.le_succ_of_le hlength
      · have hstep' := step_of_not_payload (fun q hq => hpayload ⟨q, hq⟩) b (b' :: rest)
        rw [hstep] at hstep'
        exact ⟨_, es₂, hstep', hrest, (explodeAll_append _ _).symm, Nat.le_refl _⟩

end Parser

end Mqtt

end SentinelEdge
