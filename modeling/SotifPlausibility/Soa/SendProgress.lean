import SotifPlausibility.Soa.Linearizability

/-!
# A send goes through

`Send` takes no lock: nothing that a consumer within the protocol of the ring does, or leaves
undone, holds it up, and room that is there when it begins is still there when it looks.

* `Sending` — a send under way on a ring with room.
* `sendCountdown` — each access of the producer brings it nearer to its end, and no access of the
  consumer takes it back.
* `send_with_room_succeeds` — the result: it is answered `ok` after a bounded number of the
  producer's own accesses.

Source: `IpcBridge.cpp`, `IpcBridge::Send`.
-/

namespace SotifPlausibility.Soa

open SotifPlausibility.Found

/-- A send of `event` is under way, and there is room for it. -/
def Sending (consumer : Consumer) (event : SoaEvent) (s : Cores) : Prop :=
  s.producer.event = some event ∧
    ∃ served, Linearized consumer served s ∧ served.queue.length < 31

/-- The accesses the producer still makes before its call ends. -/
def accessesLeft (writes : SlotStores) (s : Cores) : ℕ :=
  match s.producer with
  | .idle => 0
  | .headLoaded event _ => (writes.stores s.bridge.seqCounter event).length + 2
  | .filling _ _ _ stores => stores.length + 1

/-- What the answered calls have left is ready for more. -/
theorem Linearized.ready {consumer : Consumer} {served : IpcBridge} {s : Cores}
    (h : Linearized consumer served s) : served.Ready := by
  obtain ⟨ring, h⟩ := h
  exact ⟨h.initialised, ring, h.ring_eq, h.wellFormed⟩

section progress

variable (writes : SlotStores) {consumer : Consumer} {s : Cores} {event : SoaEvent}

/-! ### The consumer's accesses -/

/-- The consumer leaves the producer's call and its counter alone. -/
theorem consume_frame (consumer : Consumer) (s : Cores) :
    (s.consume consumer).2.producer = s.producer ∧
      (s.consume consumer).2.bridge.seqCounter = s.bridge.seqCounter := by
  obtain ⟨bridge, producer, seen⟩ := s
  unfold Cores.consume
  cases bridge.ring with
  | none => exact ⟨rfl, rfl⟩
  | some ring =>
      simp only
      cases consumer.store seen ring <;> exact ⟨rfl, rfl⟩

/-- What the consumer's accesses answer. -/
theorem consume_popped (consumer : Consumer) (s : Cores) :
    ∀ answer ∈ (s.consume consumer).1, ∃ slot, answer = .popped slot := by
  obtain ⟨bridge, producer, seen⟩ := s
  unfold Cores.consume
  cases bridge.ring with
  | none => simp
  | some ring =>
      simp only
      cases consumer.store seen ring <;> simp

/-- Room stays: the consumer only takes slots away. -/
theorem sending_consume (hconsumer : consumer.KeepsProtocol) (h : Sending consumer event s) :
    Sending consumer event (s.consume consumer).2 := by
  obtain ⟨hevent, served, hlinear, hroom⟩ := h
  have hframe := (consume_frame consumer s).1
  have heffect := takesEffect_step sourceStores hconsumer hlinear .consumer
  have hpopped := consume_popped consumer s
  rw [Cores.step] at heffect
  refine ⟨by rw [hframe]; exact hevent, ?_⟩
  generalize s.consume consumer = out at heffect hpopped ⊢
  obtain ⟨answer, s'⟩ := out
  cases answer with
  | none => exact ⟨served, heffect, hroom⟩
  | some answer =>
      obtain ⟨slot, rfl⟩ := hpopped answer rfl
      obtain ⟨-, hqueue, -⟩ := IpcBridge.queue_pop hlinear.ready
      have hlength := congrArg List.length hqueue
      rw [List.length_append] at hlength
      exact ⟨served.pop.2, heffect.2, by omega⟩

/-! ### The producer's accesses -/

/-- The producer's next access ends the call with `ok` or brings it nearer to its end. -/
theorem sending_continueSend (hconsumer : consumer.KeepsProtocol) (h : Sending consumer event s) :
    (s.continueSend writes).1 = some (.sent event .ok) ∨
      ((s.continueSend writes).1 = none ∧ Sending consumer event (s.continueSend writes).2 ∧
        accessesLeft writes (s.continueSend writes).2 < accessesLeft writes s) := by
  obtain ⟨hevent, served, hlinear, hroom⟩ := h
  have heffect := takesEffect_step writes hconsumer hlinear .producer
  have hready := hlinear.ready
  rw [Cores.step] at heffect
  obtain ⟨bridge, producer, seen⟩ := s
  obtain ⟨ring, hat⟩ := hlinear
  cases producer with
  | idle => exact absurd hevent (by simp [SendState.event])
  | headLoaded event' head =>
      obtain rfl : event' = event := Option.some.inj hevent
      obtain ⟨hbridge, hlen, hhead⟩ := hat.producer
      obtain rfl : bridge = served := hbridge
      obtain rfl : head = ring.head := hhead
      -- there is room, so the ring is not found full
      obtain ⟨-, -, ring', hring', hfull⟩ := (IpcBridge.takes_iff_queue hready).mpr ⟨hlen, hroom⟩
      obtain rfl := Option.some.inj (hat.ring_eq.symm.trans hring')
      have hstep : Cores.continueSend writes ⟨bridge, .headLoaded event' ring.head, seen⟩ =
          (none, ⟨bridge, .filling event' ring.head ((ring.head + 1) &&& kIpcRingSlotMask)
            (writes.stores bridge.seqCounter event'), seen⟩) := by
        have hring : bridge.ring = some ring := hring'
        unfold Cores.continueSend
        simp only [hring, if_neg hfull]
      rw [hstep] at heffect ⊢
      exact Or.inr ⟨rfl, ⟨rfl, bridge, heffect, hroom⟩, Nat.lt_succ_self _⟩
  | filling event' head nextHead stores =>
      obtain rfl : event' = event := Option.some.inj hevent
      obtain ⟨slot, hbridge⟩ := hat.producer.memory hat.ring_eq hat.wellFormed
      have hmemory : bridge.ring = some (ring.draft slot) := congrArg IpcBridge.ring hbridge
      cases stores with
      | nil =>
          left
          unfold Cores.continueSend
          simp only [hmemory]
      | cons store stores =>
          right
          unfold Cores.continueSend at heffect ⊢
          simp only [hmemory] at heffect ⊢
          exact ⟨trivial, ⟨rfl, served, heffect, hroom⟩, Nat.lt_succ_self _⟩

/-- A send on a ring with room, counted down by the producer's accesses. -/
def sendCountdown (hconsumer : consumer.KeepsProtocol) (event : SoaEvent) :
    Countdown (coresMachine writes consumer) where
  Busy := Sending consumer event
  own := fun turn => turn == .producer
  left := accessesLeft writes
  Ends := fun output => output = some (.sent event .ok)
  Quiet := fun output => ∀ answer ∈ output, ∃ slot, answer = .popped slot
  left_pos {s} h := by
    obtain ⟨bridge, producer, seen⟩ := s
    cases producer with
    | idle => exact absurd h.1 (by simp [SendState.event])
    | headLoaded => exact Nat.succ_pos _
    | filling => exact Nat.succ_pos _
  step_own {s turn} h hown := by
    obtain rfl : turn = .producer := by simpa using hown
    rcases sending_continueSend writes hconsumer h with hends | ⟨hnone, hbusy, hleft⟩
    · exact Or.inl hends
    · refine Or.inr ⟨?_, hbusy, hleft⟩
      intro answer hanswer
      rw [coresMachine_step, Cores.step, hnone] at hanswer
      exact absurd hanswer (by simp)
  step_other {s turn} h hown := by
    cases turn with
    | send event' =>
        have hstep : s.beginSend event' = (none, s) := by
          obtain ⟨bridge, producer, seen⟩ := s
          cases producer with
          | idle => exact absurd h.1 (by simp [SendState.event])
          | headLoaded => rfl
          | filling => rfl
        rw [coresMachine_step, Cores.step, hstep]
        exact ⟨by simp, h, rfl⟩
    | producer => exact absurd hown (by simp)
    | consumer =>
        obtain ⟨hproducer, hcounter⟩ := consume_frame consumer s
        refine ⟨consume_popped consumer s, sending_consume hconsumer h, ?_⟩
        rw [coresMachine_step, Cores.step, accessesLeft, accessesLeft, hproducer, hcounter]

/-- A send that begins on a ring with room. -/
theorem sending_beginSend (hconsumer : consumer.KeepsProtocol) {served : IpcBridge}
    (h : Linearized consumer served s) (hidle : s.producer = .idle)
    (hlen : event.payloadLen ≤ 128) (hroom : s.bridge.queue.length < 31) :
    (s.beginSend event).1 = none ∧ Sending consumer event (s.beginSend event).2 ∧
      accessesLeft writes (s.beginSend event).2 =
        (writes.stores s.bridge.seqCounter event).length + 2 := by
  have heffect := takesEffect_step writes hconsumer h (.send event)
  rw [Cores.step] at heffect
  rw [h.queue_eq] at hroom
  obtain ⟨bridge, producer, seen⟩ := s
  obtain rfl : producer = .idle := hidle
  obtain ⟨ring, hat⟩ := h
  obtain rfl : bridge = served := hat.producer
  rw [beginSend_of_fits hat.initialised hat.ring_eq hlen] at heffect ⊢
  exact ⟨rfl, ⟨rfl, bridge, heffect, hroom⟩, rfl⟩

end progress

/-- **A send that finds room goes through.** Let the cores take their accesses in any order, with
any consumer that keeps the protocol of the ring, up to a point where the producer begins to send an
event that fits and fewer than 31 slots wait. However the consumer goes on from there, after so many
further accesses of the producer as the slot takes stores, and two, the send is answered `ok`, with
nothing but reads answered before. -/
theorem send_with_room_succeeds (writes : SlotStores) {consumer : Consumer}
    (hconsumer : consumer.KeepsProtocol) {bridge : IpcBridge} (h : bridge.Ready)
    (turns : List Turn) {event : SoaEvent} (hlen : event.payloadLen ≤ 128) :
    let m := coresMachine writes consumer
    let s := m.final (Cores.start bridge) turns
    s.producer = .idle → s.bridge.queue.length < 31 → ∀ more : List Turn,
      (writes.stores s.bridge.seqCounter event).length + 2 ≤ more.count .producer →
        ∃ before after, answers (m.history s (.send event :: more)) =
            before ++ .sent event .ok :: after ∧
          ∀ answer ∈ before, ∃ slot, answer = .popped slot := by
  intro m s hidle hroom more hmore
  obtain ⟨-, hlinear⟩ := (bridgeLinearization writes hconsumer).run (linearized_start h) turns
  obtain ⟨hnone, hsending, hleft⟩ :=
    sending_beginSend writes hconsumer hlinear hidle hlen hroom
  have hcount : accessesLeft writes (s.beginSend event).2 ≤
      more.countP (sendCountdown writes hconsumer event).own := hleft.le.trans hmore
  obtain ⟨before, e, after, hsplit, hends, hquiet⟩ :=
    (sendCountdown writes hconsumer event).ends hsending hcount
  have houtput : e.output = some (.sent event .ok) := hends
  refine ⟨answers before, answers after, ?_, ?_⟩
  · have hhistory : m.history s (.send event :: more) =
        m.entry s (.send event) :: (before ++ e :: after) := by
      rw [← hsplit]
      rfl
    rw [hhistory, answers_cons, Machine.entry_output, coresMachine_step, Cores.step, hnone,
      answers_append, answers_cons, houtput]
    rfl
  · intro answer hanswer
    obtain ⟨f, hf, hfout⟩ := List.mem_filterMap.mp hanswer
    exact hquiet f hf answer hfout

/-- The first send, with the consumer polling in between. -/
theorem send_with_room_succeeds_first :
    ∃ before after,
      answers ((coresMachine sourceStores pollingConsumer).history
          (Cores.start (IpcBridge.init { ring := some blankMemory }).2)
          (.send {} :: .producer :: .consumer :: .consumer :: List.replicate 142 .producer)) =
        before ++ .sent {} .ok :: after ∧
      ∀ answer ∈ before, ∃ slot, answer = .popped slot := by
  obtain ⟨hready, hqueue, -⟩ := @IpcBridge.ready_init { ring := some blankMemory } rfl
  have hlen : ({} : SoaEvent).payloadLen ≤ 128 := by decide
  have hroom : (IpcBridge.init { ring := some blankMemory }).2.queue.length < 31 := by
    rw [hqueue]
    decide
  have hstores : (sourceStores.stores 0 {}).length = 141 := length_sendStores 0 hlen
  refine send_with_room_succeeds sourceStores pollingConsumer_keepsProtocol hready [] hlen rfl
    hroom _ ?_
  show (sourceStores.stores 0 {}).length + 2 ≤ _
  rw [hstores]
  simp

end SotifPlausibility.Soa
