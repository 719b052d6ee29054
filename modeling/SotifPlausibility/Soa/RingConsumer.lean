import SotifPlausibility.Soa.SlotStores

/-!
# The consumer of the ring

The program of the Cortex-M7 is not in the repository. Here it is a parameter, with what the layout
of the shared memory and the comments of the bridge rely on as hypotheses: the consumer owns `tail`,
reads `slots[tail]` while `tail` differs from `head`, and then advances `tail`.

* `Consumer` — a program of the Cortex-M7, by what it does at each of its accesses to the memory. It
  writes no word but `tail`.
* `Consumer.Ran` — the courses in which nobody else writes `tail`.
* `Consumer.KeepsProtocol` — the hypotheses: it advances `tail` by one, only after it found `tail`
  different from `head`, and only after it copied every part of the slot.
* `pollingConsumer` — a program that keeps the protocol (`pollingConsumer_keepsProtocol`): it polls
  the two indices and copies a slot byte by byte.

Source: `IpcBridge.hpp`, `IpcRingBuffer`.
-/

namespace SotifPlausibility.Soa

open SotifPlausibility.Found

/-- A program of the Cortex-M7, by what it stores at an access to the shared memory: nothing, or a
new `tail`, with the slot it hands on for it. This may depend on the memory as it was at each of its
accesses before, oldest first, and as it is at this one. -/
structure Consumer where
  /-- The store to `tail` at an access, if it makes one, and the slot it hands on. -/
  store : List IpcRingBuffer → IpcRingBuffer → Option (UInt32 × IpcSlot)

namespace Consumer

/-- The word `tail` after an access. -/
def tailAfter (consumer : Consumer) (seen : List IpcRingBuffer) (now : IpcRingBuffer) : UInt32 :=
  (consumer.store seen now).elim now.tail Prod.fst

/-- A course of accesses in which `tail` changes only where the consumer stores it; the last value
is what it left. -/
inductive Ran (consumer : Consumer) : List IpcRingBuffer → UInt32 → Prop
  /-- Before the first access, `tail` is what it is. -/
  | start (tail : UInt32) : Ran consumer [] tail
  /-- An access finds `tail` as the consumer left it. -/
  | access {seen : List IpcRingBuffer} {now : IpcRingBuffer} (h : Ran consumer seen now.tail) :
      Ran consumer (seen ++ [now]) (consumer.tailAfter seen now)

/-- `accesses` are the last ones of `seen`; at the first of them `tail` differs from `head`, and
`tail` has not changed since. -/
def FoundWaiting (seen : List IpcRingBuffer) (tail : UInt32) (accesses : List IpcRingBuffer) :
    Prop :=
  ∃ before look after, accesses = look :: after ∧ seen = before ++ accesses ∧
    look.tail ≠ look.head ∧ ∀ memory ∈ accesses, memory.tail = tail

/-- `copy` has every part of the slot at `tail` from one of the accesses: if the slot was the same
at all of them, `copy` is that slot. -/
def Copies (accesses : List IpcRingBuffer) (tail : UInt32) (copy : IpcSlot) : Prop :=
  ∀ slot, (∀ memory ∈ accesses, memory.slots[tail.toNat]? = some slot) → copy = slot

/-- **What the ring relies on.** While nobody else writes `tail`, a store to it advances it by one;
before, the consumer found `tail` different from `head`, and since then it copied every part of the
slot it hands on. -/
structure KeepsProtocol (consumer : Consumer) : Prop where
  /-- A store advances `tail` by one, wrapping. -/
  advances : ∀ {seen now tail copy}, consumer.Ran seen now.tail →
    consumer.store seen now = some (tail, copy) → tail = (now.tail + 1) &&& kIpcRingSlotMask
  /-- A store comes after a look that found a waiting slot, and after that slot was copied. -/
  reads : ∀ {seen now tail copy}, consumer.Ran seen now.tail →
    consumer.store seen now = some (tail, copy) →
      ∃ accesses, FoundWaiting seen now.tail accesses ∧ Copies accesses now.tail copy

/-- What was found stays found while `tail` stays. -/
theorem FoundWaiting.concat {seen accesses : List IpcRingBuffer} {now : IpcRingBuffer}
    (h : FoundWaiting seen now.tail accesses) :
    FoundWaiting (seen ++ [now]) now.tail (accesses ++ [now]) := by
  obtain ⟨before, look, after, rfl, rfl, hne, htail⟩ := h
  refine ⟨before, look, after ++ [now], rfl, by simp, hne, ?_⟩
  intro memory hmemory
  rcases List.mem_append.mp hmemory with hmemory | hmemory
  · exact htail memory hmemory
  · rw [List.mem_singleton.mp hmemory]

end Consumer

/-! ### A consumer that polls -/

/-- The loads of single bytes of the payload. -/
def payloadLoads : List (IpcSlot → IpcSlot → IpcSlot) :=
  (List.finRange 128).map fun (i : Fin 128) (slot copy : IpcSlot) =>
    { copy with payload := copy.payload.setIfInBounds i.val (slot.payload.get i) }

/-- A copy of a slot: its fields, then its payload byte by byte. -/
def copyLoads : List (IpcSlot → IpcSlot → IpcSlot) :=
  [fun slot copy => { copy with e2eHeader := slot.e2eHeader },
    fun slot copy => { copy with serviceId := slot.serviceId, eventId := slot.eventId },
    fun slot copy => { copy with sessionId := slot.sessionId },
    fun slot copy => { copy with payloadLen := slot.payloadLen, reserved := slot.reserved }]
    ++ payloadLoads

/-- The loads of the payload take it over. -/
theorem foldl_payloadLoads (slot copy : IpcSlot) :
    payloadLoads.foldl (fun copy load => load slot copy) copy =
      { copy with payload := slot.payload } := by
  have hstores := foldl_payloadStores (List.finRange 128) slot.payload.get copy
  have hpayload : Vector.ofFn slot.payload.get = slot.payload := by
    ext i hi
    rw [Vector.getElem_ofFn]
    rfl
  rw [Bytes.storeBytes_finRange, hpayload] at hstores
  unfold payloadStores at hstores
  unfold payloadLoads
  rw [List.foldl_map] at hstores ⊢
  exact hstores

/-- The loads of a slot that does not change under them copy it. -/
theorem foldl_copyLoads (slot copy : IpcSlot) :
    copyLoads.foldl (fun copy load => load slot copy) copy = slot := by
  unfold copyLoads
  rw [List.foldl_append, foldl_payloadLoads]
  rfl

/-- Where a consumer that polls stands. -/
inductive PollState where
  /-- No slot is being read. -/
  | idle
  /-- `tail` is loaded. -/
  | tailLoaded (tail : UInt32)
  /-- `head` is loaded and was different; these loads of the slot are left. -/
  | copying (tail : UInt32) (copy : IpcSlot) (loads : List (IpcSlot → IpcSlot → IpcSlot))

namespace PollState

/-- One access: the load of `tail`, the load of `head`, a load from the slot, or the store of
`tail`. -/
def access : PollState → IpcRingBuffer → PollState × Option (UInt32 × IpcSlot)
  | .idle, memory => (.tailLoaded memory.tail, none)
  | .tailLoaded tail, memory =>
      if tail = memory.head then (.idle, none)
      else (.copying tail IpcSlot.zero copyLoads, none)
  | .copying tail copy (load :: loads), memory =>
      let slot := (memory.slots[tail.toNat]?).getD IpcSlot.zero
      (.copying tail (load slot copy) loads, none)
  | .copying tail copy [], _ => (.idle, some ((tail + 1) &&& kIpcRingSlotMask, copy))

/-- The load of `head`. -/
theorem access_tailLoaded (tail : UInt32) (memory : IpcRingBuffer) :
    (tailLoaded tail).access memory =
      if tail = memory.head then (.idle, none)
      else (.copying tail IpcSlot.zero copyLoads, none) := rfl

/-- Where it stands after its accesses. -/
def after (seen : List IpcRingBuffer) : PollState :=
  seen.foldl (fun s memory => (s.access memory).1) .idle

/-- One access more. -/
theorem after_concat (seen : List IpcRingBuffer) (now : IpcRingBuffer) :
    after (seen ++ [now]) = ((after seen).access now).1 := by
  unfold after
  rw [List.foldl_append]
  rfl

/-- What the loads made so far say: those that are left complete the copy. -/
def Stands (seen : List IpcRingBuffer) (tail : UInt32) : PollState → Prop
  | .idle => True
  | .tailLoaded loaded => loaded = tail
  | .copying loaded copy loads => loaded = tail ∧ ∃ accesses,
      Consumer.FoundWaiting seen tail accesses ∧
        ∀ slot, (∀ memory ∈ accesses, memory.slots[tail.toNat]? = some slot) →
          loads.foldl (fun copy load => load slot copy) copy = slot

end PollState

/-- The program that polls. -/
def pollingConsumer : Consumer where
  store seen now := ((PollState.after seen).access now).2

/-- Each access keeps what the loads made so far say. -/
theorem PollState.stands_access {seen : List IpcRingBuffer} {now : IpcRingBuffer}
    (h : (PollState.after seen).Stands seen now.tail) :
    (PollState.after (seen ++ [now])).Stands (seen ++ [now])
      (pollingConsumer.tailAfter seen now) := by
  have htail : pollingConsumer.tailAfter seen now =
      ((PollState.after seen).access now).2.elim now.tail Prod.fst := rfl
  rw [PollState.after_concat, htail]
  generalize PollState.after seen = s at h ⊢
  cases s with
  | idle => exact rfl
  | tailLoaded tail =>
      obtain rfl : tail = now.tail := h
      rw [PollState.access_tailLoaded]
      by_cases hempty : now.tail = now.head
      · rw [if_pos hempty]
        trivial
      · rw [if_neg hempty]
        refine ⟨rfl, [now], ⟨seen, now, [], rfl, rfl, hempty, by simp⟩, ?_⟩
        intro slot _
        exact foldl_copyLoads slot _
  | copying tail copy loads =>
      obtain ⟨rfl, accesses, hfound, hcopies⟩ := h
      cases loads with
      | nil => trivial
      | cons load loads =>
          refine ⟨rfl, accesses ++ [now], hfound.concat, ?_⟩
          intro slot hslot
          have hnow : now.slots[now.tail.toNat]? = some slot := hslot now (by simp)
          have hrest := hcopies slot fun memory hmemory =>
            hslot memory (List.mem_append_left _ hmemory)
          rw [hnow]
          exact hrest

/-- While nobody else writes `tail`, the loads made so far say what they say. -/
theorem PollState.stands_of_ran {seen : List IpcRingBuffer} {tail : UInt32}
    (h : pollingConsumer.Ran seen tail) : (PollState.after seen).Stands seen tail := by
  induction h with
  | start tail => trivial
  | access h ih => exact PollState.stands_access ih

/-- **The program that polls keeps the protocol.** -/
theorem pollingConsumer_keepsProtocol : pollingConsumer.KeepsProtocol := by
  have hstore : ∀ {seen now tail copy}, pollingConsumer.Ran seen now.tail →
      pollingConsumer.store seen now = some (tail, copy) →
        tail = (now.tail + 1) &&& kIpcRingSlotMask ∧
          ∃ accesses, Consumer.FoundWaiting seen now.tail accesses ∧
            Consumer.Copies accesses now.tail copy := by
    intro seen now tail copy hran hsome
    have hstands := PollState.stands_of_ran hran
    have hsome' : ((PollState.after seen).access now).2 = some (tail, copy) := hsome
    generalize PollState.after seen = s at hstands hsome'
    cases s with
    | idle => exact absurd hsome' (by simp [PollState.access])
    | tailLoaded loaded =>
        rw [PollState.access_tailLoaded] at hsome'
        split_ifs at hsome'
    | copying loaded copied loads =>
        obtain ⟨rfl, accesses, hfound, hcopies⟩ := hstands
        cases loads with
        | cons load loads => exact absurd hsome' (by simp [PollState.access])
        | nil =>
            obtain ⟨rfl, rfl⟩ := Prod.mk.inj (Option.some.inj hsome')
            exact ⟨rfl, accesses, hfound, hcopies⟩
  exact { advances := fun hran hsome => (hstore hran hsome).1
          reads := fun hran hsome => (hstore hran hsome).2 }

end SotifPlausibility.Soa
