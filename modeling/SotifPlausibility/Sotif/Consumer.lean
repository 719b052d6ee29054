import SotifPlausibility.Sotif.Rejection

/-!
# What the M7 consumer reads

The gate, other senders and the consumer share one bridge. Whatever they do in turn, the consumer
reads the events the bridge took, in order, each end-to-end valid for its position; and those of
the gate tell which rejections reached it.

* `deliveredEvents`, `poppedSlots`, `rejections`, `gateNumbers` — the observations of a history.
* `ConsumerInv` — the joint invariant of the ring, the end-to-end counter and the escalation
  counter.
* `consumer_reads` — the result.
-/

namespace SotifPlausibility.Sotif

open SotifPlausibility.Found SotifPlausibility.Soa

/-! ### Observations -/

/-- A bridge right after its `Init`, over any memory. -/
def freshBridge (ring : IpcRingBuffer) : IpcBridge := (IpcBridge.init { ring := some ring }).2

/-- The event the bridge took at a step. -/
def delivered (e : GateEntry) : Option SoaEvent :=
  e.output.sent.bind fun send => if send.result = .ok then some send.event else none

/-- The events the bridge took, oldest first. -/
def deliveredEvents (h : List GateEntry) : List SoaEvent := h.filterMap delivered

/-- The slots the consumer read, oldest first. -/
def poppedSlots (h : List GateEntry) : List IpcSlot := h.filterMap (·.output.popped)

/-- The rejections of a run, oldest first. -/
def rejections (h : List GateEntry) : List GateEntry := h.filter isRejection

/-- The number of the command the gate had delivered at a step. -/
def gateNumber (e : GateEntry) : Option UInt32 :=
  if e.input.candidate.isSome then
    (delivered e).bind fun event =>
      (SafeStateCommand.ofEvent event).map (·.sequenceNum)
  else none

/-- The numbers of the commands the gate had delivered, oldest first. -/
def gateNumbers (h : List GateEntry) : List UInt32 := h.filterMap gateNumber

/-- The slots of a list of events, the `k`-th under the end-to-end counter `k` (modulo 256). -/
def stampAll (events : List SoaEvent) : List IpcSlot :=
  events.mapIdx fun k event => IpcBridge.stamp (UInt8.ofNat k) event

/-- A slot carries an event: its ids and the bytes of its payload. -/
structure Carries (slot : IpcSlot) (event : SoaEvent) : Prop where
  serviceId : slot.serviceId = event.serviceId
  eventId : slot.eventId = event.eventId
  sessionId : slot.sessionId = event.sessionId
  payloadLen : slot.payloadLen = event.payloadLen
  payload : ∀ i (hi : i < 128), i < event.payloadLen.toNat → slot.payload[i] = event.payload[i]

/-- A stamped slot carries its event. -/
theorem carries_stamp (counter : UInt8) (event : SoaEvent) :
    Carries (IpcBridge.stamp counter event) event where
  serviceId := rfl
  eventId := rfl
  sessionId := rfl
  payloadLen := rfl
  payload := by
    intro i hi hlen
    simp [IpcBridge.stamp, IpcBridge.applyE2eHeader, IpcSlot.populate, hlen]

/-- One event more is stamped with the next counter. -/
theorem stampAll_concat (events : List SoaEvent) (event : SoaEvent) :
    stampAll (events ++ [event]) =
      stampAll events ++ [IpcBridge.stamp (UInt8.ofNat events.length) event] := by
  simp [stampAll, List.mapIdx_append]

/-! ### The joint invariant -/

/-- The ring, the end-to-end counter and the escalation counter agree with the history. -/
structure ConsumerInv (h : List GateEntry) (s : GateSystem) : Prop where
  ready : s.bridge.Ready
  /-- What was read and what waits is what was taken. -/
  slots : poppedSlots h ++ s.bridge.queue = stampAll (deliveredEvents h)
  counter : s.bridge.seqCounter = UInt8.ofNat (deliveredEvents h).length
  /-- The gate counts its rejections. -/
  escalations : s.gate.escalationSequence = UInt32.ofNat (rejections h).length
  /-- Its delivered commands bear the counts of their rejections. -/
  numbers : gateNumbers h =
    ((rejections h).zipIdx.filter fun p => (delivered p.1).isSome).map fun p => UInt32.ofNat p.2

section step

variable {h : List GateEntry} {s : GateSystem} {i : GateInput}

/-- At the start nothing was delivered and nothing read. -/
theorem consumerInv_nil (ring : IpcRingBuffer) :
    ConsumerInv [] (GateSystem.start (freshBridge ring)) := by
  obtain ⟨hready, hqueue, hcounter⟩ := @IpcBridge.ready_init { ring := some ring } rfl
  exact
    { ready := hready
      slots := hqueue
      counter := hcounter
      escalations := rfl
      numbers := rfl }

/-- The events delivered, by the last step. -/
theorem deliveredEvents_concat (h : List GateEntry) (e : GateEntry) :
    deliveredEvents (h ++ [e]) = deliveredEvents h ++ (delivered e).toList :=
  filterMap_concat delivered h e

/-- The slots read, by the last step. -/
theorem poppedSlots_concat (h : List GateEntry) (e : GateEntry) :
    poppedSlots (h ++ [e]) = poppedSlots h ++ e.output.popped.toList :=
  filterMap_concat (fun e : GateEntry => e.output.popped) h e

/-- The numbers of the gate's commands, by the last step. -/
theorem gateNumbers_concat (h : List GateEntry) (e : GateEntry) :
    gateNumbers (h ++ [e]) = gateNumbers h ++ (gateNumber e).toList :=
  filterMap_concat gateNumber h e

/-- The rejections, by the last step. -/
theorem rejections_concat (h : List GateEntry) (e : GateEntry) :
    rejections (h ++ [e]) = if isRejection e = true then rejections h ++ [e] else rejections h := by
  unfold rejections
  rw [List.filter_append]
  split_ifs with he <;> simp [he]

/-- A send, by whichever sender, keeps the ring and the end-to-end counter in agreement with the
history. -/
theorem slots_send (inv : ConsumerInv h s) {event : SoaEvent} {e : GateEntry}
    (hsent : e.output.sent = some { event, result := (s.bridge.send event).1 })
    (hpopped : e.output.popped = none) :
    let bridge := (s.bridge.send event).2
    bridge.Ready ∧
      poppedSlots (h ++ [e]) ++ bridge.queue = stampAll (deliveredEvents (h ++ [e])) ∧
      bridge.seqCounter = UInt8.ofNat (deliveredEvents (h ++ [e])).length := by
  intro bridge
  have hpop : poppedSlots (h ++ [e]) = poppedSlots h := by
    rw [poppedSlots_concat, hpopped]
    exact List.append_nil _
  have hdelivered : delivered e = if (s.bridge.send event).1 = .ok then some event else none := by
    unfold delivered
    rw [hsent]
    rfl
  by_cases hok : (s.bridge.send event).1 = .ok
  · obtain ⟨hready, hqueue, hcounter⟩ :=
      IpcBridge.queue_send inv.ready (IpcBridge.send_ok_iff.mp hok)
    have hevents : deliveredEvents (h ++ [e]) = deliveredEvents h ++ [event] := by
      rw [deliveredEvents_concat, hdelivered, if_pos hok]
      rfl
    refine ⟨hready, ?_, ?_⟩
    · rw [hpop, hevents, stampAll_concat, ← inv.slots, ← inv.counter, List.append_assoc, ← hqueue]
    · rw [hevents, hcounter, inv.counter]
      simp
  · have hself : bridge = s.bridge := IpcBridge.send_eq_self hok
    have hevents : deliveredEvents (h ++ [e]) = deliveredEvents h := by
      rw [deliveredEvents_concat, hdelivered, if_neg hok]
      exact List.append_nil _
    rw [hself, hpop, hevents]
    exact ⟨inv.ready, inv.slots, inv.counter⟩

/-- A step that passes nothing to the bridge delivers nothing. -/
theorem delivered_eq_none {e : GateEntry} (he : e.output.sent = none) : delivered e = none := by
  unfold delivered
  rw [he]
  rfl

/-- The number of a rejection's command, if it was delivered, is the escalation counter before
it. -/
theorem gateNumber_rejection {e : GateEntry} {gate : SotifPlausibilityGate}
    {reason : SotifRejectReason} {result : VoidResult} (hcand : e.input.candidate.isSome)
    (hsent : e.output.sent = some { event := gate.rejectionEvent reason, result }) :
    gateNumber e = if (delivered e).isSome = true then some gate.escalationSequence else none := by
  have hread := (gate.escalationCommand .kReducedDynamics).ofEvent_event
    reason.toUInt8.toUInt32
  have hdelivered : delivered e =
      if result = .ok then some (gate.rejectionEvent reason) else none := by
    unfold delivered
    rw [hsent]
    rfl
  unfold gateNumber
  rw [if_pos hcand, hdelivered]
  split_ifs with hok hsome hsome
  · rw [Option.bind_some, SotifPlausibilityGate.rejectionEvent, hread]
    rfl
  · exact absurd rfl hsome
  · simp at hsome
  · rfl

/-- A rejection adds its count to the delivered numbers exactly when its command was delivered. -/
theorem numbers_rejection (inv : ConsumerInv h s) {e : GateEntry} (hrej : isRejection e = true)
    (hnum : gateNumber e =
      if (delivered e).isSome = true then some s.gate.escalationSequence else none) :
    gateNumbers (h ++ [e]) =
      ((rejections (h ++ [e])).zipIdx.filter fun p => (delivered p.1).isSome).map
        fun p => UInt32.ofNat p.2 := by
  rw [gateNumbers_concat, inv.numbers, hnum, rejections_concat, if_pos hrej, List.zipIdx_append,
    List.filter_append, List.map_append]
  congr 1
  by_cases hdel : (delivered e).isSome = true
  · rw [if_pos hdel, inv.escalations]
    simp [hdel]
  · rw [if_neg hdel]
    simp [hdel]

/-- A step that is no rejection and has nothing of the gate delivered keeps the counts. -/
theorem numbers_other {e : GateEntry} (hrej : isRejection e = false)
    (hnum : gateNumber e = none) :
    rejections (h ++ [e]) = rejections h ∧ gateNumbers (h ++ [e]) = gateNumbers h := by
  constructor
  · rw [rejections_concat, hrej]
    rfl
  · rw [gateNumbers_concat, hnum]
    exact List.append_nil _

/-- One step keeps the invariant. -/
theorem consumerInv_step (inv : ConsumerInv h s) (i : GateInput) :
    ConsumerInv (h ++ [gateMachine.entry s i]) (gateStep s i).2 := by
  rcases gateStep_effects s i with
    ⟨hrej, hcand, reason, -, hsent, hpopped, hbridge, -, hesc⟩ |
    ⟨hrej, hesc, ⟨event, rfl⟩ | rfl | ⟨hsent, hpopped, hbridge⟩⟩
  · -- a rejection: one send, counted
    obtain ⟨hready, hslots, hcounter⟩ := slots_send (e := gateMachine.entry s i) inv hsent hpopped
    have hnum := gateNumber_rejection (e := gateMachine.entry s i) hcand hsent
    refine ⟨by rwa [hbridge], by rwa [hbridge], by rwa [hbridge], ?_,
      numbers_rejection inv hrej hnum⟩
    rw [hesc, rejections_concat, if_pos hrej, inv.escalations]
    simp
  · -- a send of another sender
    obtain ⟨hready, hslots, hcounter⟩ :=
      slots_send (e := gateMachine.entry s (.foreignSend event)) inv rfl rfl
    obtain ⟨hrejections, hnumbers⟩ := numbers_other (h := h) hrej rfl
    exact ⟨hready, hslots, hcounter, by rw [hesc, hrejections, inv.escalations],
      by rw [hnumbers, hrejections, inv.numbers]⟩
  · -- a read of the consumer
    obtain ⟨hready, hqueue, hcounter⟩ := IpcBridge.queue_pop inv.ready
    obtain ⟨hrejections, hnumbers⟩ := numbers_other (h := h) hrej rfl
    have hevents : deliveredEvents (h ++ [gateMachine.entry s .consumerPop]) =
        deliveredEvents h := by
      rw [deliveredEvents_concat, delivered_eq_none rfl]
      exact List.append_nil _
    have hpop : poppedSlots (h ++ [gateMachine.entry s .consumerPop]) =
        poppedSlots h ++ s.bridge.pop.1.toList := poppedSlots_concat _ _
    refine ⟨hready, ?_, ?_, by rw [hesc, hrejections, inv.escalations],
      by rw [hnumbers, hrejections, inv.numbers]⟩
    · rw [hevents, hpop, List.append_assoc, ← inv.slots, hqueue]
      rfl
    · rw [hevents, ← inv.counter, ← hcounter]
      rfl
  · -- nothing is sent or read
    have hnone := delivered_eq_none (e := gateMachine.entry s i) hsent
    have hnum : gateNumber (gateMachine.entry s i) = none := by
      unfold gateNumber
      rw [hnone]
      split_ifs <;> rfl
    obtain ⟨hrejections, hnumbers⟩ := numbers_other (h := h) hrej hnum
    have hself : (gateStep s i).2.bridge = s.bridge := by
      rcases hbridge with hbridge | hbridge
      · exact hbridge
      · rw [hbridge, IpcBridge.init_eq_self inv.ready.initialised]
    have hevents : deliveredEvents (h ++ [gateMachine.entry s i]) = deliveredEvents h := by
      rw [deliveredEvents_concat, hnone]
      exact List.append_nil _
    have hpop : poppedSlots (h ++ [gateMachine.entry s i]) = poppedSlots h := by
      rw [poppedSlots_concat, Machine.entry_output, gateMachine_step, hpopped]
      exact List.append_nil _
    refine ⟨by rw [hself]; exact inv.ready, by rw [hself, hevents, hpop, inv.slots],
      by rw [hself, hevents, inv.counter], by rw [hesc, hrejections, inv.escalations],
      by rw [hnumbers, hrejections, inv.numbers]⟩

/-- Every run keeps the invariant. -/
theorem consumerInv_run (ring : IpcRingBuffer) (is : List GateInput) :
    ConsumerInv (gateMachine.history (GateSystem.start (freshBridge ring)) is)
      (gateMachine.final (GateSystem.start (freshBridge ring)) is) :=
  gateMachine.run_induction (consumerInv_nil ring) (fun _ _ i inv => consumerInv_step inv i) is

end step

/-! ### Results -/

section results

/-- What a gate's entry had delivered is the command of a rejection. -/
theorem delivered_gate {h : List GateEntry} {s : GateSystem} (inv : ConsumerInv h s)
    {i : GateInput} {event : SoaEvent} (hcand : i.candidate.isSome)
    (hdel : delivered (gateMachine.entry s i) = some event) (counter : UInt8) :
    let reason := (gateMachine.entry s i).after.gate.getLastRejectReason
    reason ≠ .kNone ∧
      IsRejectionSlot (IpcBridge.stamp counter event) reason
        (UInt32.ofNat (rejections h).length) := by
  rcases gateStep_effects s i with
    ⟨-, -, reason, hreason, hsent, -, -, hlast, -⟩ |
    ⟨-, -, ⟨event, rfl⟩ | rfl | ⟨hsent, -, -⟩⟩
  · have hevent : event = s.gate.rejectionEvent reason := by
      unfold delivered at hdel
      rw [Machine.entry_output, gateMachine_step, hsent] at hdel
      simp only [Option.bind_some] at hdel
      split_ifs at hdel
      exact (Option.some.inj hdel).symm
    have hlast' : (gateMachine.entry s i).after.gate.getLastRejectReason = reason := hlast
    rw [hlast', hevent, ← inv.escalations]
    exact ⟨hreason, isRejectionSlot_stamp _ _ _⟩
  · exact absurd hcand (by simp [GateInput.candidate])
  · exact absurd hcand (by simp [GateInput.candidate])
  · rw [delivered_eq_none (e := gateMachine.entry s i) hsent] at hdel
    exact absurd hdel (by simp)

/-- **What the consumer reads.** In every run from an initialised bridge, the slots read and then
those waiting are the events the bridge took, in order, each stamped with its position. So the
`k`-th slot read is valid for the counter `k`, carries the event taken after `k` others, and, if
the gate sent it, reads as the command of a rejection: the session is that rejection's reason, the
number how many rejections came before. The numbers that reach the ring are those of the rejections
whose send succeeded. -/
theorem consumer_reads (ring : IpcRingBuffer) (is : List GateInput) :
    let h := gateMachine.history (GateSystem.start (freshBridge ring)) is
    let s := gateMachine.final (GateSystem.start (freshBridge ring)) is
    poppedSlots h ++ s.bridge.queue = stampAll (deliveredEvents h) ∧
      (∀ k slot, (poppedSlots h)[k]? = some slot →
        verifyE2e slot (UInt8.ofNat k) = .ok ∧
          ∃ pre e post event, h = pre ++ e :: post ∧ delivered e = some event ∧
            (deliveredEvents pre).length = k ∧ Carries slot event ∧
            (e.input.candidate.isSome →
              let reason := e.after.gate.getLastRejectReason
              1 ≤ reason.toUInt8.toUInt32 ∧ reason.toUInt8.toUInt32 ≤ 6 ∧
                IsRejectionSlot slot reason (UInt32.ofNat (rejections pre).length))) ∧
      gateNumbers h =
        ((rejections h).zipIdx.filter fun p => (delivered p.1).isSome).map
          fun p => UInt32.ofNat p.2 := by
  intro h s
  have inv : ConsumerInv h s := consumerInv_run ring is
  refine ⟨inv.slots, ?_, inv.numbers⟩
  intro k slot hk
  -- the slot is the stamp of the event taken after `k` others
  have hstamp : (stampAll (deliveredEvents h))[k]? = some slot := by
    rw [← inv.slots, List.getElem?_append_left (List.getElem?_eq_some_iff.mp hk).1]
    exact hk
  obtain ⟨event, hevent, rfl⟩ : ∃ event, (deliveredEvents h)[k]? = some event ∧
      IpcBridge.stamp (UInt8.ofNat k) event = slot := by
    simpa [stampAll] using hstamp
  obtain ⟨pre, e, post, hsplit, hlen, hdel⟩ := filterMap_getElem?_eq_some delivered hevent
  refine ⟨(IpcBridge.verifyE2e_stamp_iff _ _).mpr rfl, pre, e, post, event, hsplit, hdel, hlen,
    carries_stamp _ _, ?_⟩
  intro hcand
  obtain ⟨is₁, i, is₂, -, rfl, rfl, -⟩ := gateMachine.history_eq_append_cons hsplit
  obtain ⟨hreason, hslot⟩ :=
    delivered_gate (consumerInv_run ring is₁) hcand hdel (UInt8.ofNat k)
  exact ⟨(reason_range hreason).1, (reason_range hreason).2, hslot⟩

/-- Memory of a ring before its `Init`. -/
def staleMemory : IpcRingBuffer where
  head := 7
  tail := 3
  magic := 0
  pad := 0
  slots := Vector.replicate 32 IpcSlot.zero

/-- `consumer_reads` for a run that rejects a stale candidate and reads its slot. -/
theorem consumer_reads_stale_rejection :
    let h := gateMachine.history (GateSystem.start (freshBridge staleMemory))
      [.init {}, .evaluate (nominalCandidate 1.5) 500, .consumerPop]
    ∃ slot, (poppedSlots h)[0]? = some slot ∧ verifyE2e slot 0 = .ok := by
  intro h
  have hsome : ((poppedSlots h)[0]?).isSome = true := by decide
  obtain ⟨slot, hslot⟩ := Option.isSome_iff_exists.mp hsome
  exact ⟨slot, hslot, ((consumer_reads staleMemory _).2.1 0 slot hslot).1⟩

end results

end SotifPlausibility.Sotif
