import SotifPlausibility.Sotif.Verdict

/-!
# What becomes of a rejection

A rejection sends a safe-state command and drops the result of the send. So the caller learns of
the rejection, never of the fate of its command.

* `IsRejectionSlot` — a slot that carries the command of a rejection, as the receiver reads it;
  `isRejectionSlot_stamp` says so of the slot the bridge writes for `rejectionEvent`.
* `Reported` — the command of a rejection reached the ring, or the call's error tells that it did
  not.
* `reported_iff` — the exact condition: the bridge is initialised and has a free slot.

Source: `SotifPlausibilityGate.cpp`, `EscalateToSafeState` and `Evaluate`.
-/

namespace SotifPlausibility.Sotif

open SotifPlausibility.Found SotifPlausibility.Soa

/-! ### The slot of a rejection -/

/-- A slot carries the command of a rejection: the reserved ids, the reason's number as the session,
and a payload that reads as a reduced-dynamics command with number `n`. -/
structure IsRejectionSlot (slot : IpcSlot) (reason : SotifRejectReason) (n : UInt32) : Prop where
  serviceId : slot.serviceId = 0xFF00
  eventId : slot.eventId = 0xFF01
  payloadLen : slot.payloadLen = 24
  sessionId : slot.sessionId = reason.toUInt8.toUInt32
  command : ∃ cmd, SafeStateCommand.unpackPayload (slot.payload.load 0 24) = some cmd ∧
    cmd.magic = 0x5AFE0001 ∧ cmd.state = .kReducedDynamics ∧ cmd.sequenceNum = n

/-- The bridge writes the slot of a rejection for the event of one. -/
theorem isRejectionSlot_stamp (gate : SotifPlausibilityGate) (reason : SotifRejectReason)
    (counter : UInt8) :
    IsRejectionSlot (IpcBridge.stamp counter (gate.rejectionEvent reason)) reason
      gate.escalationSequence where
  serviceId := rfl
  eventId := rfl
  payloadLen := rfl
  sessionId := rfl
  command :=
    ⟨_, SafeStateCommand.unpackPayload_stamp (gate.escalationCommand .kReducedDynamics) counter _,
      rfl, rfl, rfl⟩

/-- A reject reason's number is between 1 and 6. -/
theorem reason_range {reason : SotifRejectReason} (h : reason ≠ .kNone) :
    1 ≤ reason.toUInt8.toUInt32 ∧ reason.toUInt8.toUInt32 ≤ 6 := by
  cases reason with
  | kNone => exact absurd rfl h
  | _ => exact ⟨by decide, by decide⟩

/-! ### Reported rejections -/

/-- A rejection is not silently lost: one new slot for it is in the ring, or the error of the call
is not the one of a rejection whose command was delivered. -/
def Reported (before : GateSystem) (out : EvaluateOutcome) : Prop :=
  (∃ slot, out.bridge.queue = before.bridge.queue ++ [slot] ∧
      IsRejectionSlot slot out.gate.getLastRejectReason before.gate.escalationSequence) ∨
    out.result ≠ .err .kInvalidArgument

/-- Every bridge that was built and used is sound. -/
theorem sound_run (ring : Option IpcRingBuffer) (is : List GateInput) :
    (gateMachine.final (GateSystem.start { ring }) is).bridge.Sound :=
  gateMachine.final_induction (P := fun s => s.bridge.Sound)
    (fun h => absurd h Bool.false_ne_true) (fun s i h => sound_step s h i) is

/-- **When a rejection is reported.** In every state that calls of the gate, calls of the bridge by
others and reads of the consumer lead to, from a bridge over any memory or none, a rejection by
an initialised gate is reported exactly when the bridge is initialised and fewer than 31 slots
wait. Otherwise its command is lost, and the error is that of a delivered one. -/
theorem reported_iff (ring : Option IpcRingBuffer) (is : List GateInput)
    (c : PerceptionCandidateEvent) (nowMs : UInt32) :
    let s := gateMachine.final (GateSystem.start { ring }) is
    s.gate.initialised = true → (s.gate.verdict c nowMs).1 = false →
      (Reported s (s.gate.evaluate s.bridge c nowMs) ↔
        s.bridge.initialised = true ∧ s.bridge.queue.length < 31) := by
  intro s hinit hrejects
  have hsound : s.bridge.Sound := sound_run ring is
  have hipc : s.gate.ipc = true := (gateInv_run _ is).ipc
  rcases s.gate.evaluate_cases s.bridge c nowMs with
    ⟨hnot, -⟩ | ⟨-, hv, -⟩ | ⟨-, -, hout⟩
  · exact absurd ⟨hinit, hipc⟩ hnot
  · simp [hrejects] at hv
  · generalize (s.gate.verdict c nowMs).2 = reason at hout
    rw [hout]
    constructor
    · rintro (⟨slot, hqueue, -⟩ | herr)
      · -- the queue grew, so the bridge took the event
        have htakes : s.bridge.Takes (s.gate.rejectionEvent reason) := by
          by_contra hnot
          have hself := IpcBridge.send_eq_self (mt IpcBridge.send_ok_iff.mp hnot)
          simp [hself] at hqueue
        exact ⟨htakes.1, ((IpcBridge.takes_iff_queue (hsound htakes.1)).mp htakes).2⟩
      · exact absurd rfl herr
    · rintro ⟨hbridge, hroom⟩
      have hready := hsound hbridge
      have htakes : s.bridge.Takes (s.gate.rejectionEvent reason) :=
        (IpcBridge.takes_iff_queue hready).mpr
          ⟨SafeStateCommand.event_payloadLen_le _ _, hroom⟩
      exact Or.inl ⟨_, (IpcBridge.queue_send hready htakes).2.1, isRejectionSlot_stamp _ _ _⟩

/-- `reported_iff` for a stale candidate over an initialised, empty bridge. -/
theorem reported_initialised_bridge :
    let s := gateMachine.final
      (GateSystem.start { ring := some { head := 7, tail := 3, magic := 0, pad := 0
                                         slots := Vector.replicate 32 IpcSlot.zero } })
      [.bridgeInit, .init {}]
    Reported s (s.gate.evaluate s.bridge (nominalCandidate 1.5) 500) ↔
      s.bridge.initialised = true ∧ s.bridge.queue.length < 31 :=
  reported_iff _ [.bridgeInit, .init {}] (nominalCandidate 1.5) 500 (by decide) (by decide)

/-- A stale candidate is rejected over a bridge nobody initialised: the call gives the error of a
delivered rejection, and no slot is written. -/
theorem rejection_lost :
    (initialisedGate.gate.verdict (nominalCandidate 1.5) 500).1 = false ∧
      (initialisedGate.gate.evaluate initialisedGate.bridge (nominalCandidate 1.5) 500).result =
        .err .kInvalidArgument ∧
      ¬ Reported initialisedGate
        (initialisedGate.gate.evaluate initialisedGate.bridge (nominalCandidate 1.5) 500) := by
  have hempty : (initialisedGate.gate.evaluate initialisedGate.bridge (nominalCandidate 1.5)
      500).bridge.queue = [] := by decide
  refine ⟨by decide, by decide, ?_⟩
  rintro (⟨slot, hqueue, -⟩ | herr)
  · rw [hempty] at hqueue
    simp at hqueue
  · exact herr (by decide)

end SotifPlausibility.Sotif
