import SotifPlausibility.Sotif.Rejection

/-!
# The form of a rejection's command

The gate writes its commands itself, on the channel of the arbitrator. How far is such an event one
the arbitrator could have sent?

* `ArbitratorSends` — an event that a transition of the arbitrator to a state passes to the bridge;
  `arbitratorSends_iff` — it is the command of the transition, with its number as the session.
* `HasArbitratorForm` — the event of such a command, with the deceleration cap, the number and the
  session left open.
* `rejection_form` — a rejection's event has this form, and its session is the reject reason.
  `not_arbitratorSends_rejectionEvent` — the arbitrator never sends it: the cap differs.

Source: `SotifPlausibilityGate.cpp`, `EscalateToSafeState`; `SafetyArbitrator.cpp`,
`ExecuteTransition` and `SendCommandToM7`.
-/

namespace SotifPlausibility.Sotif

open SotifPlausibility.Found SotifPlausibility.Soa

/-! ### What the arbitrator sends -/

section form

variable {state : SafeState} {event : SoaEvent}

/-- The event is one that a transition to `state` passes to the bridge, for some arbitrator. -/
def ArbitratorSends (state : SafeState) (event : SoaEvent) : Prop :=
  ∃ (arb : SafetyArbitrator) (bridge : IpcBridge) (clock : ClockReadings),
    ∃ send ∈ (arb.executeTransition bridge state clock).sent, send.event = event

/-- The event is that of a transition's command to `state`, with some domain masks. The deceleration
cap, the number and the session are left open. -/
def HasArbitratorForm (state : SafeState) (event : SoaEvent) : Prop :=
  ∃ (arb : SafetyArbitrator) (maxDecelMps2 : Float32) (sequenceNum sessionId : UInt32),
    event = { arb.transitionCommand state with maxDecelMps2, sequenceNum }.event sessionId

/-- **What a transition sends**: its command, with the number also as the session. -/
theorem arbitratorSends_iff :
    ArbitratorSends state event ↔
      ∃ arb : SafetyArbitrator,
        event = (arb.transitionCommand state).event (arb.transitionCommand state).sequenceNum := by
  constructor
  · rintro ⟨arb, bridge, clock, send, hsent, rfl⟩
    by_cases hipc : arb.ipc = true
    · obtain ⟨hspec, -⟩ :=
        @SafetyArbitrator.executeTransition_spec arb bridge clock state hipc
      rw [hspec] at hsent
      obtain rfl := Option.some.inj hsent
      exact ⟨arb, rfl⟩
    · simp [SafetyArbitrator.executeTransition, SafetyArbitrator.sendCommandToM7, hipc] at hsent
  · rintro ⟨arb, rfl⟩
    -- the pointer to the bridge does not show in the command
    have hspec := @SafetyArbitrator.executeTransition_spec { arb with ipc := true }
      { ring := none } { scan := 0, start := 0, finish := 0, log := 0 } state rfl
    exact ⟨_, _, _, _, hspec.1, rfl⟩

/-- The receiver reads the caps of the state from what the arbitrator sends. -/
theorem ofEvent_of_arbitratorSends (h : ArbitratorSends state event) :
    ∃ cmd, SafeStateCommand.ofEvent event = some cmd ∧ cmd.state = state ∧
      (cmd.maxSpeedKph, cmd.maxDecelMps2) = SafetyArbitrator.caps state ∧
      event.sessionId = cmd.sequenceNum := by
  obtain ⟨arb, rfl⟩ := arbitratorSends_iff.mp h
  exact ⟨_, SafeStateCommand.ofEvent_event _ _, rfl, rfl, rfl⟩

end form

/-! ### What the gate sends -/

section rejection

/-- The gate leaves the deceleration cap of its command at the default. The arbitrator halves it. -/
theorem maxDecelMps2_ne_caps :
    ({} : SafeStateCommand).maxDecelMps2 ≠ (SafetyArbitrator.caps .kReducedDynamics).2 := by
  decide

/-- **The arbitrator never sends the event of a rejection.** -/
theorem not_arbitratorSends_rejectionEvent (gate : SotifPlausibilityGate)
    (reason : SotifRejectReason) :
    ¬ ArbitratorSends .kReducedDynamics (gate.rejectionEvent reason) := by
  intro h
  obtain ⟨cmd, hcmd, -, hcaps, -⟩ := ofEvent_of_arbitratorSends h
  have hread : SafeStateCommand.ofEvent (gate.rejectionEvent reason) =
      some (gate.escalationCommand .kReducedDynamics) :=
    SafeStateCommand.ofEvent_event _ _
  obtain rfl := Option.some.inj (hread.symm.trans hcmd)
  exact maxDecelMps2_ne_caps (congrArg Prod.snd hcaps)

/-- The event of a rejection has the form of a command of the arbitrator: that of one with all
domains active and none faulted. -/
theorem hasArbitratorForm_rejectionEvent (gate : SotifPlausibilityGate)
    (reason : SotifRejectReason) :
    HasArbitratorForm .kReducedDynamics (gate.rejectionEvent reason) :=
  ⟨{ ipc := true }, _, _, _, rfl⟩

/-- **The form of a rejection's event.** In every run, what a rejection passes to the bridge is the
event of a reduced-dynamics command of the arbitrator with some domain masks, up to the deceleration
cap and the number of the command, and its session is the number of the reject reason. -/
theorem rejection_form (bridge : IpcBridge) (is : List GateInput) (e : GateEntry)
    (he : e ∈ gateMachine.history (GateSystem.start bridge) is) (hrejects : isRejection e = true) :
    ∃ send, e.output.sent = some send ∧ HasArbitratorForm .kReducedDynamics send.event ∧
      send.event.sessionId = e.after.gate.getLastRejectReason.toUInt8.toUInt32 ∧
      1 ≤ send.event.sessionId ∧ send.event.sessionId ≤ 6 := by
  obtain ⟨pre, post, hsplit⟩ := List.append_of_mem he
  obtain ⟨is₁, i, is₂, -, -, rfl, -⟩ := gateMachine.history_eq_append_cons hsplit
  rcases gateStep_effects (gateMachine.final (GateSystem.start bridge) is₁) i with
    ⟨-, -, reason, hreason, hsent, -, -, hlast, -⟩ | ⟨hnot, -⟩
  · refine ⟨_, hsent, hasArbitratorForm_rejectionEvent _ reason, ?_, ?_⟩
    · show reason.toUInt8.toUInt32 = _
      rw [← hlast]
      rfl
    · exact reason_range hreason
  · exact absurd (hrejects.symm.trans hnot) (by simp)

/-- The step of a stale candidate, first thing after `Init`. -/
def staleStep : GateEntry :=
  gateMachine.entry initialisedGate (.evaluate (nominalCandidate 1.5) 500)

/-- `rejection_form` for a stale candidate. -/
theorem rejection_form_stale :
    ∃ send, staleStep.output.sent = some send ∧ HasArbitratorForm .kReducedDynamics send.event := by
  have hmem : staleStep ∈ gateMachine.history (GateSystem.start { ring := none })
      [.init {}, .evaluate (nominalCandidate 1.5) 500] :=
    List.mem_cons_of_mem _ (List.mem_singleton_self _)
  obtain ⟨send, hsent, hform, -⟩ := rejection_form { ring := none }
    [.init {}, .evaluate (nominalCandidate 1.5) 500] staleStep hmem (by decide)
  exact ⟨send, hsent, hform⟩

/-- The first rejection of a gate, of a stale candidate: its event is none of the arbitrator's. Its
session is the reason and not the number, and its number is 0, which the arbitrator reserves for
"no command issued". -/
theorem rejection_distinguishable :
    ∃ send ∈ staleStep.output.sent, ¬ ArbitratorSends .kReducedDynamics send.event ∧
      ∃ cmd, SafeStateCommand.ofEvent send.event = some cmd ∧ cmd.state = .kReducedDynamics ∧
        cmd.sequenceNum = 0 ∧ send.event.sessionId = 2 :=
  ⟨_, rfl, not_arbitratorSends_rejectionEvent initialisedGate.gate .kStaleInput, _,
    SafeStateCommand.ofEvent_event _ _, rfl, rfl, rfl⟩

end rejection

end SotifPlausibility.Sotif
