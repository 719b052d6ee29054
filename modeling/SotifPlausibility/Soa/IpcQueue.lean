import SotifPlausibility.Soa.IpcBridge

/-!
# The bridge as a queue

The ring in shared memory refines a bounded first-in-first-out queue of slots, whatever both cores
do to it in turn.

* `IpcBridge.pop` — the M7 consumer's read of one slot. The consumer is not in the repository; the
  shared-memory layout says that it owns `tail`.
* `IpcBridge.Ready` — an initialised bridge whose index words are in range. `Init` establishes it
  (`ready_init`), a send and a pop keep it (`ready_send`, `ready_pop`).
* `IpcBridge.queue` — the slots the consumer has not read, oldest first.
* `IpcBridge.Sound` — initialised implies ready; every call keeps it.
* **Refinement**: `takes_iff_queue` (an event is taken while fewer than 31 slots wait),
  `queue_send` (a taken event is appended, stamped), `queue_pop` (a pop takes the oldest slot).
-/

namespace SotifPlausibility.Soa

open SotifPlausibility.Found

/-! ### Index words -/

section index

/-- The mask of the code is a remainder by 32. -/
theorem toNat_nextIndex (x : UInt32) :
    ((x + 1) &&& kIpcRingSlotMask).toNat = (x.toNat + 1) % 32 := by
  rw [UInt32.toNat_and, UInt32.toNat_add]
  show _ &&& (2 ^ 5 - 1) = _
  rw [Nat.and_two_pow_sub_one_eq_mod]
  show (x.toNat + 1) % 2 ^ 32 % 2 ^ 5 = _
  omega

end index

/-! ### The ring as a queue -/

namespace IpcRingBuffer

/-- Both index words are in range. -/
def WellFormed (ring : IpcRingBuffer) : Prop := ring.head.toNat < 32 ∧ ring.tail.toNat < 32

/-- The ring the memory stands for. The indices are taken modulo its size, which changes nothing
in a well-formed one. -/
def toRing (ring : IpcRingBuffer) : Ring IpcSlot 32 where
  head := ring.head.toNat % 32
  tail := ring.tail.toNat % 32
  slots := ring.slots
  head_lt := Nat.mod_lt _ (by decide)
  tail_lt := Nat.mod_lt _ (by decide)

variable {ring : IpcRingBuffer}

/-- The ring of the library has the same `head`. -/
theorem toRing_head (h : ring.WellFormed) : ring.toRing.head = ring.head.toNat :=
  Nat.mod_eq_of_lt h.1

/-- The ring of the library has the same `tail`. -/
theorem toRing_tail (h : ring.WellFormed) : ring.toRing.tail = ring.tail.toNat :=
  Nat.mod_eq_of_lt h.2

/-- The test of the code whether the ring is full is that of the library. -/
theorem nextIndex_eq_tail_iff (h : ring.WellFormed) :
    (ring.head + 1) &&& kIpcRingSlotMask = ring.tail ↔
      Ring.next 32 ring.toRing.head = ring.toRing.tail := by
  rw [toRing_head h, toRing_tail h, ← UInt32.toNat_inj, toNat_nextIndex]
  rfl

/-- The producer's write is a push. -/
theorem push_toRing (h : ring.WellFormed) (slot : IpcSlot)
    (hfull : (ring.head + 1) &&& kIpcRingSlotMask ≠ ring.tail) :
    ring.toRing.push slot =
      some { ring with
        head := (ring.head + 1) &&& kIpcRingSlotMask
        slots := ring.slots.setIfInBounds ring.head.toNat slot }.toRing := by
  have hhead : ring.head.toNat % 32 = ring.head.toNat := Nat.mod_eq_of_lt h.1
  have hslots : ring.slots.set (ring.head.toNat % 32) slot (Nat.mod_lt _ (by decide)) =
      ring.slots.setIfInBounds ring.head.toNat slot := by
    ext1 i hi
    rw [Vector.getElem_set, Vector.getElem_setIfInBounds hi, hhead]
  have hnext : Ring.next 32 (ring.head.toNat % 32) =
      ((ring.head + 1) &&& kIpcRingSlotMask).toNat % 32 := by
    rw [toNat_nextIndex, Ring.next, hhead, Nat.mod_mod]
  unfold Ring.push
  rw [if_neg (mt (nextIndex_eq_tail_iff h).mpr hfull)]
  simp only [toRing, hslots, hnext]

/-- A well-formed ring stays well-formed when a slot is written and `head` advances. -/
theorem wellFormed_push (h : ring.WellFormed) (slot : IpcSlot) :
    { ring with
      head := (ring.head + 1) &&& kIpcRingSlotMask
      slots := ring.slots.setIfInBounds ring.head.toNat slot }.WellFormed :=
  ⟨by
    show ((ring.head + 1) &&& kIpcRingSlotMask).toNat < 32
    rw [toNat_nextIndex]
    exact Nat.mod_lt _ (by decide), h.2⟩

/-- The consumer's read of the slot at `tail`, and its advance. -/
def pop (ring : IpcRingBuffer) : Option IpcSlot × IpcRingBuffer :=
  if ring.tail = ring.head then (none, ring)
  else
    (ring.slots[ring.tail.toNat]?,
      { ring with tail := (ring.tail + 1) &&& kIpcRingSlotMask })

/-- The test whether the ring is empty is that of the library. -/
theorem tail_eq_head_iff (h : ring.WellFormed) :
    ring.tail = ring.head ↔ ring.toRing.tail = ring.toRing.head := by
  rw [toRing_head h, toRing_tail h, UInt32.toNat_inj]

/-- **The consumer's read takes the oldest slot**, and nothing from an empty ring. -/
theorem contents_pop (h : ring.WellFormed) :
    ring.pop.2.WellFormed ∧
      ring.toRing.contents = ring.pop.1.toList ++ ring.pop.2.toRing.contents := by
  unfold pop
  by_cases hempty : ring.tail = ring.head
  · rw [if_pos hempty]
    exact ⟨h, rfl⟩
  · have hempty' := mt (tail_eq_head_iff h).mpr hempty
    have htail : ring.tail.toNat % 32 = ring.tail.toNat := Nat.mod_eq_of_lt h.2
    have hnext : ((ring.tail + 1) &&& kIpcRingSlotMask).toNat = Ring.next 32 ring.tail.toNat :=
      toNat_nextIndex _
    have hwf : { ring with tail := (ring.tail + 1) &&& kIpcRingSlotMask }.WellFormed :=
      ⟨h.1, by
        show ((ring.tail + 1) &&& kIpcRingSlotMask).toNat < 32
        rw [hnext]
        exact Ring.next_lt h.2⟩
    have hpop : ring.toRing.pop =
        some (getElem ring.slots ring.tail.toNat h.2,
          { ring with tail := (ring.tail + 1) &&& kIpcRingSlotMask }.toRing) := by
      unfold Ring.pop
      rw [if_neg hempty']
      simp only [toRing, htail, hnext, Nat.mod_eq_of_lt (Ring.next_lt h.2)]
    rw [if_neg hempty]
    refine ⟨hwf, ?_⟩
    rw [Ring.contents_pop hpop]
    simp [h.2]

end IpcRingBuffer

/-! ### The bridge as a queue -/

namespace IpcBridge

/-- The slots the consumer has not read yet, oldest first. -/
def queue (bridge : IpcBridge) : List IpcSlot :=
  match bridge.ring with
  | none => []
  | some ring => ring.toRing.contents

/-- The queue of a bridge is the contents of its ring. -/
theorem queue_of_ring {bridge : IpcBridge} {ring : IpcRingBuffer} (h : bridge.ring = some ring) :
    bridge.queue = ring.toRing.contents := by
  unfold queue
  rw [h]

/-- An initialised bridge whose index words are in range. -/
structure Ready (bridge : IpcBridge) : Prop where
  initialised : bridge.initialised = true
  ring : ∃ ring, bridge.ring = some ring ∧ ring.WellFormed

/-- The consumer's read of one slot, if one is waiting. -/
def pop (bridge : IpcBridge) : Option IpcSlot × IpcBridge :=
  match bridge.ring with
  | none => (none, bridge)
  | some ring => (ring.pop.1, { bridge with ring := some ring.pop.2 })

variable {bridge : IpcBridge} {event : SoaEvent}

/-- A successful `Init` leaves a ready bridge with an empty queue and the counter at 0. -/
theorem ready_init (h : bridge.init.1 = .ok) :
    bridge.init.2.Ready ∧ bridge.init.2.queue = [] ∧ bridge.init.2.seqCounter = 0 := by
  unfold init at h ⊢
  rcases bridge with ⟨_ | ring, counter, _ | _⟩
  · simp at h
  · simp at h
  · refine ⟨⟨rfl, _, rfl, ?_⟩, ?_, rfl⟩
    · exact ⟨by decide, by decide⟩
    · exact List.length_eq_zero_iff.mp (Ring.length_contents _)
  · simp at h

/-- **When an event is taken**: while fewer than 31 slots wait, if its payload fits. -/
theorem takes_iff_queue (h : bridge.Ready) :
    bridge.Takes event ↔ event.payloadLen ≤ 128 ∧ bridge.queue.length < 31 := by
  obtain ⟨hinit, ring, hring, hwf⟩ := h
  have hlt : ring.toRing.contents.length < 32 := by
    rw [Ring.length_contents]
    exact Ring.count_lt _
  have hfull : (ring.head + 1) &&& kIpcRingSlotMask = ring.tail ↔
      ring.toRing.contents.length = 31 := by
    rw [IpcRingBuffer.nextIndex_eq_tail_iff hwf, ← Ring.push_eq_none_iff _ IpcSlot.zero]
    unfold Ring.push
    split_ifs with hnext <;> simp [hnext]
  unfold Takes
  rw [queue_of_ring hring]
  constructor
  · rintro ⟨-, hlen, r, hr, hne⟩
    obtain rfl := Option.some.inj (hring.symm.trans hr)
    have hne31 := mt hfull.mpr hne
    exact ⟨hlen, by omega⟩
  · rintro ⟨hlen, hlt31⟩
    exact ⟨hinit, hlen, ring, hring, mt hfull.mp (by omega)⟩

/-- **A taken event is appended to the queue**, stamped with the current counter. -/
theorem queue_send (h : bridge.Ready) (htakes : bridge.Takes event) :
    (bridge.send event).2.Ready ∧
      (bridge.send event).2.queue = bridge.queue ++ [stamp bridge.seqCounter event] ∧
      (bridge.send event).2.seqCounter = bridge.seqCounter + 1 := by
  obtain ⟨-, ring₀, hring₀, hwf⟩ := h
  rcases send_cases bridge event with ⟨ring, hring, -, -, hfull, hsend⟩ | ⟨hnot, -⟩
  · obtain rfl := Option.some.inj (hring₀.symm.trans hring)
    have hpush := IpcRingBuffer.push_toRing hwf (stamp bridge.seqCounter event) hfull
    rw [hsend]
    refine ⟨⟨rfl, _, rfl, IpcRingBuffer.wellFormed_push hwf _⟩, ?_, rfl⟩
    rw [queue_of_ring hring₀]
    exact Ring.contents_push hpush
  · exact absurd htakes hnot

/-- A send leaves a ready bridge ready. -/
theorem ready_send (h : bridge.Ready) (event : SoaEvent) : (bridge.send event).2.Ready := by
  by_cases htakes : bridge.Takes event
  · exact (queue_send h htakes).1
  · rw [send_eq_self (mt send_ok_iff.mp htakes)]
    exact h

/-- **A pop takes the oldest slot** and leaves the rest of the bridge alone. -/
theorem queue_pop (h : bridge.Ready) :
    bridge.pop.2.Ready ∧ bridge.queue = bridge.pop.1.toList ++ bridge.pop.2.queue ∧
      bridge.pop.2.seqCounter = bridge.seqCounter := by
  obtain ⟨hinit, ring, hring, hwf⟩ := h
  obtain ⟨hwf', hcontents⟩ := IpcRingBuffer.contents_pop hwf
  have hpop : bridge.pop = (ring.pop.1, { bridge with ring := some ring.pop.2 }) := by
    unfold pop
    rw [hring]
  rw [hpop, queue_of_ring hring]
  exact ⟨⟨hinit, _, rfl, hwf'⟩, hcontents, rfl⟩

/-- An initialised bridge is ready. It holds of every bridge that was built and used. -/
def Sound (bridge : IpcBridge) : Prop := bridge.initialised = true → bridge.Ready

/-- `Init` leaves a sound bridge sound. -/
theorem sound_init (h : bridge.Sound) : bridge.init.2.Sound := by
  by_cases hok : bridge.init.1 = .ok
  · intro _
    exact (ready_init hok).1
  · have hself : bridge.init.2 = bridge := by
      unfold init at hok ⊢
      rcases bridge with ⟨_ | ring, counter, _ | _⟩
      · rfl
      · rfl
      · simp at hok
      · rfl
    rw [hself]
    exact h

/-- A send leaves a sound bridge sound. -/
theorem sound_send (h : bridge.Sound) (event : SoaEvent) : (bridge.send event).2.Sound := by
  by_cases hinit : bridge.initialised = true
  · intro _
    exact ready_send (h hinit) event
  · have hself : (bridge.send event).2 = bridge :=
      send_eq_self (mt send_ok_iff.mp fun htakes => hinit htakes.1)
    rw [hself]
    exact h

/-- A read leaves a sound bridge sound. -/
theorem sound_pop (h : bridge.Sound) : bridge.pop.2.Sound := by
  intro hinit
  have hinit' : bridge.initialised = true := by
    unfold pop at hinit
    rcases bridge with ⟨_ | ring, counter, initialised⟩ <;> exact hinit
  exact (queue_pop (h hinit')).1

/-- `Init` does nothing to a bridge that is initialised. -/
theorem init_eq_self (h : bridge.initialised = true) : bridge.init.2 = bridge := by
  unfold init
  rcases bridge with ⟨_ | ring, counter, initialised⟩
  · rfl
  · simp only at h
    simp [h]

end IpcBridge

end SotifPlausibility.Soa
