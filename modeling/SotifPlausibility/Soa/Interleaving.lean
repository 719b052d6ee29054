import SotifPlausibility.Found.Linearization
import SotifPlausibility.Soa.IpcQueue
import SotifPlausibility.Soa.RingConsumer

/-!
# The two cores on the ring

`Send` runs on the Cortex-A53 while the Cortex-M7 reads: neither is one step. Here each load and
each store to the shared memory is a step of its own, and the two cores take them in any order. The
memory is sequentially consistent: a step takes effect at once, and those of a core in program
order. That is what the fences of the source ask for; the fences themselves are not modelled. How
the stores to a slot are cut and ordered between them is open (`SlotStores`), and the program of the
consumer is a parameter (`Consumer`).

* `Cores.beginSend`, `Cores.continueSend` — `IpcBridge::Send`, access by access.
* `Cores.consume` — an access of the consumer.
* `SendState.Agrees`, `Watched` — what the accesses made so far say about the memory: a producer
  that fills a slot does so outside the queue, and a slot that the consumer found waiting is the
  oldest and stays as it is.
* `takesEffect_step` — each access keeps this, and a call takes effect at the access that answers
  it.

Source: `IpcBridge.hpp`, `IpcBridge.cpp`.
-/

namespace SotifPlausibility.Soa

open SotifPlausibility.Found

/-! ### The calls at once -/

/-- A call of one of the cores. -/
inductive BridgeCall where
  | send (event : SoaEvent)
  | pop
  deriving DecidableEq, Repr

/-- What a call gives back. -/
inductive Answer where
  | sent (event : SoaEvent) (result : VoidResult)
  | popped (slot : Option IpcSlot)
  deriving DecidableEq, Repr

/-- The call an answer belongs to. -/
def Answer.call : Answer → BridgeCall
  | .sent event _ => .send event
  | .popped _ => .pop

/-- The bridge with each call made at once. -/
def bridgeMachine : Machine IpcBridge BridgeCall Answer where
  step
    | bridge, .send event => (.sent event (bridge.send event).1, (bridge.send event).2)
    | bridge, .pop => (.popped bridge.pop.1, bridge.pop.2)

/-- A send at once is `send`. -/
@[simp] theorem bridgeMachine_send (bridge : IpcBridge) (event : SoaEvent) :
    bridgeMachine.step bridge (.send event) =
      (.sent event (bridge.send event).1, (bridge.send event).2) := rfl

/-- A read at once is `pop`. -/
@[simp] theorem bridgeMachine_pop (bridge : IpcBridge) :
    bridgeMachine.step bridge .pop = (.popped bridge.pop.1, bridge.pop.2) := rfl

/-! ### The calls access by access -/

/-- Where the producer stands in a call of `Send`. -/
inductive SendState where
  /-- No call is under way. -/
  | idle
  /-- `head` is loaded. -/
  | headLoaded (event : SoaEvent) (head : UInt32)
  /-- `tail` is loaded and the ring found not full; these stores to the slot are left. -/
  | filling (event : SoaEvent) (head nextHead : UInt32) (stores : List (IpcSlot → IpcSlot))

/-- The bridge with its memory, where the producer stands, and what the consumer has seen: the
memory at each of its accesses, oldest first. -/
structure Cores where
  /-- The bridge, with the shared memory. -/
  bridge : IpcBridge
  /-- Where the producer stands. -/
  producer : SendState
  /-- What the consumer has seen. -/
  seen : List IpcRingBuffer

/-- The next access: of the producer, which may call `Send` when it is idle, or of the consumer. -/
inductive Turn where
  | send (event : SoaEvent)
  | producer
  | consumer
  deriving DecidableEq, Repr

namespace Cores

/-- No call is under way, and the consumer has not looked. -/
def start (bridge : IpcBridge) : Cores := { bridge, producer := .idle, seen := [] }

/-- `Send` up to the load of `head`. A call that is under way goes on undisturbed.
Source: `IpcBridge.cpp`, `IpcBridge::Send`. -/
def beginSend (s : Cores) (event : SoaEvent) : Option Answer × Cores :=
  match s.producer with
  | .idle =>
      if !s.bridge.initialised then (some (.sent event (.err .kNotInitialized)), s)
      else
        match s.bridge.ring with
        | none => (some (.sent event (.err .kNullPointer)), s)
        | some ring =>
            if event.payloadLen > UInt8.ofNat kIpcPayloadBytes then
              (some (.sent event (.err .kInvalidArgument)), s)
            else (none, { s with producer := .headLoaded event ring.head })
  | _ => (none, s)

/-- The next access of `Send`: the load of `tail` with the check that the ring is not full, a store
to the slot, or the store of `head`. The end-to-end counter is the producer's own and moves with the
last access.
Source: `IpcBridge.cpp`, `IpcBridge::Send`. -/
def continueSend (writes : SlotStores) (s : Cores) : Option Answer × Cores :=
  match s.bridge.ring with
  | none => (none, s)
  | some ring =>
      match s.producer with
      | .idle => (none, s)
      | .headLoaded event head =>
          let nextHead := (head + 1) &&& kIpcRingSlotMask
          if nextHead = ring.tail then
            (some (.sent event (.err .kIpcBufferFull)), { s with producer := .idle })
          else
            (none, { s with
              producer := .filling event head nextHead (writes.stores s.bridge.seqCounter event) })
      | .filling event head nextHead (store :: stores) =>
          let slot := store ((ring.slots[head.toNat]?).getD IpcSlot.zero)
          (none, { s with
            bridge.ring := some { ring with slots := ring.slots.setIfInBounds head.toNat slot }
            producer := .filling event head nextHead stores })
      | .filling event _ nextHead [] =>
          (some (.sent event .ok), { s with
            bridge := { s.bridge with
              ring := some { ring with head := nextHead }
              seqCounter := s.bridge.seqCounter + 1 }
            producer := .idle })

/-- The next access of the consumer: it looks at the memory, and stores `tail` where its program
does. -/
def consume (consumer : Consumer) (s : Cores) : Option Answer × Cores :=
  match s.bridge.ring with
  | none => (none, s)
  | some ring =>
      match consumer.store s.seen ring with
      | none => (none, { s with seen := s.seen ++ [ring] })
      | some (tail, slot) =>
          (some (.popped (some slot)), { s with
            bridge.ring := some { ring with tail }
            seen := s.seen ++ [ring] })

/-- One access. -/
def step (writes : SlotStores) (consumer : Consumer) (s : Cores) : Turn → Option Answer × Cores
  | .send event => s.beginSend event
  | .producer => s.continueSend writes
  | .consumer => s.consume consumer

end Cores

/-- The two cores, access by access. -/
def coresMachine (writes : SlotStores) (consumer : Consumer) :
    Machine Cores Turn (Option Answer) where
  step := Cores.step writes consumer

/-- A step of the cores is an access. -/
@[simp] theorem coresMachine_step (writes : SlotStores) (consumer : Consumer) (s : Cores)
    (turn : Turn) : (coresMachine writes consumer).step s turn = s.step writes consumer turn := rfl

/-! ### The slot the producer writes -/

namespace IpcRingBuffer

variable {ring : IpcRingBuffer}

/-- The ring with `slot` in the place the producer writes next. -/
def draft (ring : IpcRingBuffer) (slot : IpcSlot) : IpcRingBuffer :=
  { ring with slots := ring.slots.setIfInBounds ring.head.toNat slot }

@[simp] theorem draft_head (slot : IpcSlot) : (ring.draft slot).head = ring.head := rfl

@[simp] theorem draft_tail (slot : IpcSlot) : (ring.draft slot).tail = ring.tail := rfl

/-- A later draft replaces an earlier one. -/
@[simp] theorem draft_draft (slot slot' : IpcSlot) :
    (ring.draft slot).draft slot' = ring.draft slot' := by
  unfold draft
  simp

/-- What lies there is a draft like any other. -/
theorem exists_draft_eq (h : ring.WellFormed) : ∃ slot, ring.draft slot = ring := by
  have hhead : ring.head.toNat < 32 := h.1
  refine ⟨getElem ring.slots ring.head.toNat hhead, ?_⟩
  unfold draft
  congr 1
  ext1 i hi
  rw [Vector.getElem_setIfInBounds hi]
  split_ifs with heq
  · simp only [heq]
  · rfl

/-- The draft lies at `head`. -/
theorem draft_getElem?_head (h : ring.WellFormed) (slot : IpcSlot) :
    (ring.draft slot).slots[ring.head.toNat]? = some slot := by
  have hhead : ring.head.toNat < 32 := h.1
  unfold draft
  simp [hhead]

/-- The oldest slot is not the one the producer writes. -/
theorem draft_getElem?_tail (h : ring.tail ≠ ring.head) (slot : IpcSlot) :
    (ring.draft slot).slots[ring.tail.toNat]? = ring.slots[ring.tail.toNat]? := by
  have hne : ring.head.toNat ≠ ring.tail.toNat := fun heq => h (UInt32.toNat_inj.mp heq.symm)
  unfold draft
  exact Vector.getElem?_setIfInBounds_ne hne

/-- A draft is not part of the queue. -/
theorem contents_draft (h : ring.WellFormed) (slot : IpcSlot) :
    (ring.draft slot).toRing.contents = ring.toRing.contents := by
  have hhead : ring.toRing.head = ring.head.toNat := toRing_head h
  rw [← Ring.contents_set_head ring.toRing slot]
  congr 1
  unfold toRing draft
  congr 1
  ext1 i hi
  rw [Vector.getElem_setIfInBounds hi, Vector.getElem_set]
  simp only [Nat.mod_eq_of_lt h.1]

/-- The two indices do not meet when both advance. -/
theorem nextIndex_ne (h : ring.WellFormed) (hne : ring.tail ≠ ring.head) :
    (ring.head + 1) &&& kIpcRingSlotMask ≠ (ring.tail + 1) &&& kIpcRingSlotMask := by
  intro heq
  have hnat : Ring.next 32 ring.head.toNat = Ring.next 32 ring.tail.toNat := by
    have := congrArg UInt32.toNat heq
    rwa [toNat_nextIndex, toNat_nextIndex] at this
  exact hne (UInt32.toNat_inj.mp ((Ring.next_inj h.1 h.2).mp hnat).symm)

/-- An index does not stay when it advances. -/
theorem nextIndex_tail_ne (h : ring.WellFormed) :
    (ring.tail + 1) &&& kIpcRingSlotMask ≠ ring.tail := by
  intro heq
  have htail := h.2
  have hnat := congrArg UInt32.toNat heq
  rw [toNat_nextIndex] at hnat
  omega

end IpcRingBuffer

/-! ### What the accesses made so far say -/

/-- The producer's part. The calls answered so far have left the bridge `served` with the ring
`ring`; `bridge` is what lies in memory. -/
def SendState.Agrees (served bridge : IpcBridge) (ring : IpcRingBuffer) : SendState → Prop
  | .idle => bridge = served
  | .headLoaded event head => bridge = served ∧ event.payloadLen ≤ 128 ∧ head = ring.head
  | .filling event head nextHead stores =>
      event.payloadLen ≤ 128 ∧ head = ring.head ∧
        nextHead = (ring.head + 1) &&& kIpcRingSlotMask ∧ nextHead ≠ ring.tail ∧
        ∃ slot, bridge = { served with ring := some (ring.draft slot) } ∧
          stores.foldl (fun slot store => store slot) slot =
            IpcBridge.stamp served.seqCounter event

/-- The consumer's part: a slot that it found waiting, and that it has not released since, waits at
`tail`, and it was the same at each of the consumer's accesses since then. -/
def Watched (ring : IpcRingBuffer) (seen : List IpcRingBuffer) : Prop :=
  ∀ accesses, Consumer.FoundWaiting seen ring.tail accesses → ring.tail ≠ ring.head ∧
    ∀ memory ∈ accesses, memory.slots[ring.tail.toNat]? = ring.slots[ring.tail.toNat]?

/-- The cores stand where the answered calls, made at once, have left the bridge with the ring. -/
structure LinearizedAt (consumer : Consumer) (served : IpcBridge) (s : Cores)
    (ring : IpcRingBuffer) : Prop where
  /-- The bridge is initialised. -/
  initialised : served.initialised = true
  /-- Its ring. -/
  ring_eq : served.ring = some ring
  /-- The index words are in range. -/
  wellFormed : ring.WellFormed
  /-- The producer's part. -/
  producer : s.producer.Agrees served s.bridge ring
  /-- The consumer's part. -/
  watched : Watched ring s.seen
  /-- `tail` is what the consumer left. -/
  ran : consumer.Ran s.seen ring.tail

/-- The cores stand where the answered calls, made at once, have left the bridge `served`. -/
def Linearized (consumer : Consumer) (served : IpcBridge) (s : Cores) : Prop :=
  ∃ ring, LinearizedAt consumer served s ring

/-- A step of the cores takes effect where it answers a call, and nowhere else. -/
def TakesEffect (consumer : Consumer) (served : IpcBridge) : Option Answer × Cores → Prop
  | (none, s) => Linearized consumer served s
  | (some answer, s) =>
      (bridgeMachine.step served answer.call).1 = answer ∧
        Linearized consumer (bridgeMachine.step served answer.call).2 s

section step

variable {writes : SlotStores} {consumer : Consumer} {served : IpcBridge} {s : Cores}
  {ring : IpcRingBuffer}

/-- Wherever the producer stands, the memory is what the answered calls have left, but for the slot
it writes. -/
theorem SendState.Agrees.memory {producer : SendState} {bridge : IpcBridge}
    (h : producer.Agrees served bridge ring) (hring : served.ring = some ring)
    (hwf : ring.WellFormed) :
    ∃ slot, bridge = { served with ring := some (ring.draft slot) } := by
  obtain ⟨slot, hslot⟩ := IpcRingBuffer.exists_draft_eq hwf
  have hserved : served = { served with ring := some (ring.draft slot) } := by
    rw [hslot, ← hring]
  cases producer with
  | idle => exact ⟨slot, Eq.trans h hserved⟩
  | headLoaded event head => exact ⟨slot, h.1.trans hserved⟩
  | filling event head nextHead stores =>
      obtain ⟨-, -, -, -, slot, hbridge, -⟩ := h
      exact ⟨slot, hbridge⟩

/-! ### The producer's accesses -/

/-- A call of `Send` with an event that fits loads `head`. -/
theorem beginSend_of_fits {bridge : IpcBridge} {seen : List IpcRingBuffer} {event : SoaEvent}
    (hinit : bridge.initialised = true) (hring : bridge.ring = some ring)
    (hlen : event.payloadLen ≤ 128) :
    Cores.beginSend ⟨bridge, .idle, seen⟩ event =
      (none, ⟨bridge, .headLoaded event ring.head, seen⟩) := by
  have hlen' : ¬ event.payloadLen > UInt8.ofNat kIpcPayloadBytes := UInt8.not_lt.mpr hlen
  simp [Cores.beginSend, hinit, hring, hlen']

/-- `Send` up to the load of `head`. -/
theorem takesEffect_beginSend (h : LinearizedAt consumer served s ring) (event : SoaEvent) :
    TakesEffect consumer served (s.beginSend event) := by
  obtain ⟨bridge, producer, seen⟩ := s
  cases producer with
  | idle =>
      obtain rfl : bridge = served := h.producer
      by_cases hlen : event.payloadLen ≤ 128
      · rw [beginSend_of_fits h.initialised h.ring_eq hlen]
        exact ⟨ring, { h with producer := ⟨rfl, hlen, rfl⟩ }⟩
      · have hlen' : event.payloadLen > UInt8.ofNat kIpcPayloadBytes := UInt8.not_le.mp hlen
        have hbegin : Cores.beginSend ⟨bridge, .idle, seen⟩ event =
            (some (.sent event (.err .kInvalidArgument)), ⟨bridge, .idle, seen⟩) := by
          simp [Cores.beginSend, h.initialised, h.ring_eq, hlen']
        have hsend : bridge.send event = (.err .kInvalidArgument, bridge) := by
          simp [IpcBridge.send, h.initialised, h.ring_eq, hlen']
        rw [hbegin, TakesEffect, Answer.call, bridgeMachine_send, hsend]
        exact ⟨rfl, ring, h⟩
  | headLoaded => exact ⟨ring, h⟩
  | filling => exact ⟨ring, h⟩

/-- The load of `tail`: a call is refused here. -/
theorem takesEffect_loadTail {bridge : IpcBridge} {seen : List IpcRingBuffer} {event : SoaEvent}
    {head : UInt32} (h : LinearizedAt consumer served ⟨bridge, .headLoaded event head, seen⟩ ring) :
    TakesEffect consumer served
      (Cores.continueSend writes ⟨bridge, .headLoaded event head, seen⟩) := by
  obtain ⟨hbridge, hlen, hhead⟩ := h.producer
  obtain rfl : bridge = served := hbridge
  obtain rfl : head = ring.head := hhead
  have hring := h.ring_eq
  unfold Cores.continueSend
  simp only [hring]
  split_ifs with hfull
  · have hsend : bridge.send event = (.err .kIpcBufferFull, bridge) := by
      have hlen' : ¬ event.payloadLen > UInt8.ofNat kIpcPayloadBytes := UInt8.not_lt.mpr hlen
      simp [IpcBridge.send, h.initialised, hring, hlen', hfull]
    rw [TakesEffect, Answer.call, bridgeMachine_send, hsend]
    exact ⟨rfl, ring, { h with producer := rfl }⟩
  · obtain ⟨slot, hslot⟩ := IpcRingBuffer.exists_draft_eq h.wellFormed
    have hdraft : bridge = { bridge with ring := some (ring.draft slot) } := by
      rw [hslot, ← hring]
    exact ⟨ring, { h with
      producer := ⟨hlen, rfl, rfl, hfull, slot, hdraft, writes.foldl_stores _ _ slot⟩ }⟩

/-- A store to the slot. -/
theorem takesEffect_store {bridge : IpcBridge} {seen : List IpcRingBuffer} {event : SoaEvent}
    {head nextHead : UInt32} {store : IpcSlot → IpcSlot} {stores : List (IpcSlot → IpcSlot)}
    (h : LinearizedAt consumer served ⟨bridge, .filling event head nextHead (store :: stores), seen⟩
      ring) :
    TakesEffect consumer served (Cores.continueSend writes
      ⟨bridge, .filling event head nextHead (store :: stores), seen⟩) := by
  obtain ⟨hlen, hhead, hnext, hfull, slot, hbridge, hstores⟩ := h.producer
  obtain rfl : head = ring.head := hhead
  obtain rfl : bridge = { served with ring := some (ring.draft slot) } := hbridge
  have hload := IpcRingBuffer.draft_getElem?_head h.wellFormed slot
  have hdraft : { served with ring := some ((ring.draft slot).draft (store slot)) } =
      { served with ring := some (ring.draft (store slot)) } := by
    rw [IpcRingBuffer.draft_draft]
  simp only [Cores.continueSend, hload, Option.getD_some]
  exact ⟨ring, { h with
    producer := ⟨hlen, rfl, hnext, hfull, store slot, hdraft, hstores⟩ }⟩

/-- The consumer's part does not see the producer hand over a slot. -/
theorem Watched.advanceHead {seen : List IpcRingBuffer} (h : Watched ring seen)
    (hfull : (ring.head + 1) &&& kIpcRingSlotMask ≠ ring.tail) (slot : IpcSlot) :
    Watched { ring.draft slot with head := (ring.head + 1) &&& kIpcRingSlotMask } seen := by
  intro accesses hfound
  obtain ⟨hne, hslots⟩ := h accesses hfound
  refine ⟨hfull.symm, ?_⟩
  intro memory hmemory
  exact (hslots memory hmemory).trans (IpcRingBuffer.draft_getElem?_tail hne slot).symm

/-- The store of `head`: the slot is complete, and a call takes effect here. -/
theorem takesEffect_storeHead {bridge : IpcBridge} {seen : List IpcRingBuffer} {event : SoaEvent}
    {head nextHead : UInt32}
    (h : LinearizedAt consumer served ⟨bridge, .filling event head nextHead [], seen⟩ ring) :
    TakesEffect consumer served
      (Cores.continueSend writes ⟨bridge, .filling event head nextHead [], seen⟩) := by
  obtain ⟨hlen, hhead, hnext, hfull, slot, hbridge, hstores⟩ := h.producer
  obtain rfl : head = ring.head := hhead
  obtain rfl : nextHead = (ring.head + 1) &&& kIpcRingSlotMask := hnext
  obtain rfl : slot = IpcBridge.stamp served.seqCounter event := hstores
  obtain rfl : bridge = _ := hbridge
  rcases IpcBridge.send_cases served event with ⟨ring', hring', -, -, -, hsend⟩ | ⟨hnot, -⟩
  · obtain rfl := Option.some.inj (h.ring_eq.symm.trans hring')
    simp only [Cores.continueSend]
    rw [TakesEffect, Answer.call, bridgeMachine_send, hsend]
    have hproducer : { served with
        ring := some { ring.draft (IpcBridge.stamp served.seqCounter event) with
          head := (ring.head + 1) &&& kIpcRingSlotMask }
        seqCounter := served.seqCounter + 1 } =
      { ring := some { ring.draft (IpcBridge.stamp served.seqCounter event) with
          head := (ring.head + 1) &&& kIpcRingSlotMask }
        seqCounter := served.seqCounter + 1
        initialised := true } := by
      rw [← h.initialised]
    exact ⟨rfl, _,
      { initialised := rfl
        ring_eq := rfl
        wellFormed := IpcRingBuffer.wellFormed_push h.wellFormed _
        producer := hproducer
        watched := h.watched.advanceHead hfull _
        ran := h.ran }⟩
  · exact absurd ⟨h.initialised, hlen, ring, h.ring_eq, hfull⟩ hnot

/-- The next access of `Send`. -/
theorem takesEffect_continueSend (h : LinearizedAt consumer served s ring) :
    TakesEffect consumer served (s.continueSend writes) := by
  obtain ⟨bridge, producer, seen⟩ := s
  cases producer with
  | idle =>
      obtain rfl : bridge = served := h.producer
      have hring := h.ring_eq
      unfold Cores.continueSend
      simp only [hring]
      exact ⟨ring, h⟩
  | headLoaded event head => exact takesEffect_loadTail h
  | filling event head nextHead stores =>
      cases stores with
      | nil => exact takesEffect_storeHead h
      | cons store stores => exact takesEffect_store h

/-! ### The consumer's accesses -/

/-- An access of the consumer that stores nothing. -/
theorem Watched.look {seen : List IpcRingBuffer} (h : Watched ring seen) (slot : IpcSlot) :
    Watched ring (seen ++ [ring.draft slot]) := by
  rintro accesses ⟨before, look, after, rfl, hseen, hne, htail⟩
  rcases append_cons_eq_concat hseen with ⟨-, rfl, rfl⟩ | ⟨after', rfl, hseen'⟩
  · -- the look is this access
    have hwaits : ring.tail ≠ ring.head := hne
    refine ⟨hwaits, ?_⟩
    intro memory hmemory
    rw [List.mem_singleton.mp hmemory]
    exact IpcRingBuffer.draft_getElem?_tail hwaits slot
  · obtain ⟨hwaits, hslots⟩ := h (look :: after') ⟨before, look, after', rfl, hseen', hne,
      fun memory hmemory => htail memory (List.mem_append_left [ring.draft slot] hmemory)⟩
    refine ⟨hwaits, ?_⟩
    intro memory hmemory
    rcases List.mem_append.mp (show memory ∈ (look :: after') ++ [ring.draft slot] from hmemory)
      with hmemory | hmemory
    · exact hslots memory hmemory
    · rw [List.mem_singleton.mp hmemory]
      exact IpcRingBuffer.draft_getElem?_tail hwaits slot

/-- After a store to `tail` no slot counts as found. -/
theorem watched_released {seen : List IpcRingBuffer} {now : IpcRingBuffer}
    (hne : ring.tail ≠ now.tail) : Watched ring (seen ++ [now]) := by
  rintro accesses ⟨before, look, after, rfl, hseen, -, htail⟩
  have hnow : now ∈ look :: after := by
    rcases append_cons_eq_concat hseen with ⟨-, rfl, -⟩ | ⟨after', rfl, -⟩
    · exact List.mem_cons_self
    · simp
  exact absurd (htail now hnow).symm hne

/-- The producer's part does not see the consumer release a slot. -/
theorem SendState.Agrees.advanceTail {producer : SendState} {bridge : IpcBridge}
    {memory : IpcRingBuffer} (h : producer.Agrees served bridge ring)
    (hring : served.ring = some ring) (hmemory : bridge.ring = some memory)
    (hwf : ring.WellFormed) (hne : ring.tail ≠ ring.head) :
    producer.Agrees
      { served with ring := some { ring with tail := (ring.tail + 1) &&& kIpcRingSlotMask } }
      { bridge with ring := some { memory with tail := (ring.tail + 1) &&& kIpcRingSlotMask } }
      { ring with tail := (ring.tail + 1) &&& kIpcRingSlotMask } := by
  cases producer with
  | idle =>
      obtain rfl : bridge = served := h
      obtain rfl := Option.some.inj (hring.symm.trans hmemory)
      rfl
  | headLoaded event head =>
      obtain ⟨rfl, hlen, hhead⟩ := h
      obtain rfl := Option.some.inj (hring.symm.trans hmemory)
      exact ⟨rfl, hlen, hhead⟩
  | filling event head nextHead stores =>
      obtain ⟨hlen, hhead, rfl, -, slot, rfl, hstores⟩ := h
      obtain rfl := Option.some.inj hmemory
      exact ⟨hlen, hhead, rfl, IpcRingBuffer.nextIndex_ne hwf hne, slot, rfl, hstores⟩

/-- The store of `tail`: the read of the oldest slot takes effect here. -/
theorem takesEffect_storeTail (hconsumer : consumer.KeepsProtocol)
    (h : LinearizedAt consumer served s ring) {memory : IpcRingBuffer}
    (hmemory : s.bridge.ring = some memory) (hran : consumer.Ran s.seen memory.tail)
    (htail : memory.tail = ring.tail) {tail : UInt32} {copy : IpcSlot}
    (hstore : consumer.store s.seen memory = some (tail, copy)) :
    TakesEffect consumer served (s.consume consumer) := by
  obtain rfl := hconsumer.advances hran hstore
  obtain ⟨accesses, hfound, hcopies⟩ := hconsumer.reads hran hstore
  rw [htail] at hfound hcopies hstore
  obtain ⟨hne, hslots⟩ := h.watched accesses hfound
  -- what was copied is the oldest slot
  have hlt : ring.tail.toNat < 32 := h.wellFormed.2
  have holdest : ring.slots[ring.tail.toNat]? = some copy := by
    have hslot : ring.slots[ring.tail.toNat]? = some (getElem ring.slots ring.tail.toNat hlt) :=
      Vector.getElem?_eq_getElem hlt
    rw [hslot, hcopies _ fun memory' hmemory' => (hslots memory' hmemory').trans hslot]
  have hpop : served.pop = (some copy,
      { served with ring := some { ring with tail := (ring.tail + 1) &&& kIpcRingSlotMask } }) := by
    unfold IpcBridge.pop IpcRingBuffer.pop
    rw [h.ring_eq]
    simp only [if_neg hne, holdest]
  have hwf : ring.pop.2.WellFormed := (IpcRingBuffer.contents_pop h.wellFormed).1
  unfold IpcRingBuffer.pop at hwf
  rw [if_neg hne] at hwf
  have hreleased : (ring.tail + 1) &&& kIpcRingSlotMask ≠ memory.tail := by
    rw [htail]
    exact IpcRingBuffer.nextIndex_tail_ne h.wellFormed
  have hleft := Consumer.Ran.access hran
  unfold Consumer.tailAfter at hleft
  rw [hstore] at hleft
  unfold Cores.consume
  simp only [hmemory, hstore]
  rw [TakesEffect, Answer.call, bridgeMachine_pop, hpop]
  exact ⟨rfl, _,
    { initialised := h.initialised
      ring_eq := rfl
      wellFormed := hwf
      producer := h.producer.advanceTail h.ring_eq hmemory h.wellFormed hne
      watched := watched_released hreleased
      ran := hleft }⟩

/-- The next access of the consumer. -/
theorem takesEffect_consume (hconsumer : consumer.KeepsProtocol)
    (h : LinearizedAt consumer served s ring) :
    TakesEffect consumer served (s.consume consumer) := by
  obtain ⟨slot, hbridge⟩ := h.producer.memory h.ring_eq h.wellFormed
  have hmemory : s.bridge.ring = some (ring.draft slot) := congrArg IpcBridge.ring hbridge
  have hran : consumer.Ran s.seen (ring.draft slot).tail := h.ran
  cases hstore : consumer.store s.seen (ring.draft slot) with
  | some stored => exact takesEffect_storeTail hconsumer h hmemory hran rfl hstore
  | none =>
      have hleft := Consumer.Ran.access hran
      unfold Consumer.tailAfter at hleft
      rw [hstore] at hleft
      unfold Cores.consume
      simp only [hmemory, hstore]
      exact ⟨ring, { h with watched := h.watched.look slot, ran := hleft }⟩

/-- **One access**, of either core: a call takes effect at the access that answers it. -/
theorem takesEffect_step (writes : SlotStores) (hconsumer : consumer.KeepsProtocol)
    (h : Linearized consumer served s) (turn : Turn) :
    TakesEffect consumer served (s.step writes consumer turn) := by
  obtain ⟨ring, h⟩ := h
  cases turn with
  | send event => exact takesEffect_beginSend h event
  | producer => exact takesEffect_continueSend h
  | consumer => exact takesEffect_consume hconsumer h

end step

end SotifPlausibility.Soa
