import SotifPlausibility.Soa.SafetyArbitrator

/-!
# The SOTIF plausibility gate

The gate judges perception candidates before they become driving commands, and on a rejection sends
a safe-state command over the bridge it shares with the arbitrator.

* `SotifPlausibilityGate` — its state; `init`, `evaluate` and `ingestSoaEvent` follow the source,
  with the clock reading as an argument and the bridge passed in and out.
* `verdict` — the three checks of one evaluation, in their order.
* `init_cases` — all an `Init` can do: take the thresholds or fail.
* `evaluate_cases` — all an evaluation can do: refuse to judge, accept, or reject and escalate.

Source: `SotifPlausibilityGate.hpp`, `SotifPlausibilityGate.cpp`.
-/

namespace SotifPlausibility.Sotif

open SotifPlausibility.Found SotifPlausibility.Soa

/-! ### Candidates, reasons and thresholds -/

/-- A driving command the AI domain proposes.
Source: `SotifPlausibilityGate.hpp`, `PerceptionCandidateEvent`. -/
structure PerceptionCandidateEvent where
  lateralAccelMps2 : Float32
  longitudinalDecelMps2 : Float32
  steeringAngleDeg : Float32
  primaryConfidence : Float32
  secondaryConfidence : Float32
  calibrationDriftMetric : Float32
  timestampMs : UInt32
  sequenceNum : UInt32
  deriving DecidableEq

/-- `sizeof(PerceptionCandidateEvent)`. -/
def sizeofPerceptionCandidateEvent : UInt8 := 32

/-- The candidate 32 bytes of a payload stand for. -/
def PerceptionCandidateEvent.ofBytes (p : Bytes 32) : PerceptionCandidateEvent where
  lateralAccelMps2 := Float32.ofBits (Bytes.unpackU32 (p.load 0 4))
  longitudinalDecelMps2 := Float32.ofBits (Bytes.unpackU32 (p.load 4 4))
  steeringAngleDeg := Float32.ofBits (Bytes.unpackU32 (p.load 8 4))
  primaryConfidence := Float32.ofBits (Bytes.unpackU32 (p.load 12 4))
  secondaryConfidence := Float32.ofBits (Bytes.unpackU32 (p.load 16 4))
  calibrationDriftMetric := Float32.ofBits (Bytes.unpackU32 (p.load 20 4))
  timestampMs := Bytes.unpackU32 (p.load 24 4)
  sequenceNum := Bytes.unpackU32 (p.load 28 4)

/-- The candidate in the payload of an event. -/
def PerceptionCandidateEvent.ofEvent (event : SoaEvent) : PerceptionCandidateEvent :=
  ofBytes (event.payload.load 0 32)

/-- Why a candidate was rejected.
Source: `SotifPlausibilityGate.hpp`, `SotifRejectReason`. -/
inductive SotifRejectReason where
  | kNone
  /-- "Non-finite field, or NULL". -/
  | kInvalidInput
  | kStaleInput
  | kSequenceAnomaly
  | kCrossEstimateDisagreement
  | kLowConfidence
  | kCalibrationDrift
  deriving DecidableEq, Repr

/-- The number of a reason. -/
def SotifRejectReason.toUInt8 : SotifRejectReason → UInt8
  | kNone => 0
  | kInvalidInput => 1
  | kStaleInput => 2
  | kSequenceAnomaly => 3
  | kCrossEstimateDisagreement => 4
  | kLowConfidence => 5
  | kCalibrationDrift => 6

/-- The thresholds.
Source: `SotifPlausibilityGate.hpp`, `SotifPlausibilityConfig`. -/
structure SotifPlausibilityConfig where
  maxConfidenceDisagreement : Float32 := 0.25
  minConfidence : Float32 := 0.60
  maxCalibrationDrift : Float32 := 0.15
  maxInputAgeMs : UInt32 := 40
  deriving DecidableEq

/-- The thresholds `Init` takes. -/
def SotifPlausibilityConfig.Valid (config : SotifPlausibilityConfig) : Prop :=
  ¬ (¬ config.maxConfidenceDisagreement.isFinite ∨ config.maxConfidenceDisagreement < 0.0 ∨
    ¬ config.minConfidence.isFinite ∨ config.minConfidence < 0.0 ∨ config.minConfidence > 1.0 ∨
    ¬ config.maxCalibrationDrift.isFinite ∨ config.maxCalibrationDrift < 0.0)

/-- The test `Init` makes of the thresholds. -/
instance (config : SotifPlausibilityConfig) : Decidable config.Valid := by
  unfold SotifPlausibilityConfig.Valid
  infer_instance

/-! ### The gate -/

/-- The gate's state. `ipc` says whether the bridge pointer is not null; a new gate has the other
fields at their defaults.
Source: `SotifPlausibilityGate.hpp`, `SotifPlausibilityGate`. -/
structure SotifPlausibilityGate where
  ipc : Bool
  config : SotifPlausibilityConfig := {}
  lastSequence : UInt32 := 0
  hasPriorSample : Bool := false
  lastRejectReason : SotifRejectReason := .kNone
  acceptCount : UInt32 := 0
  rejectCount : UInt32 := 0
  escalationSequence : UInt32 := 0
  initialised : Bool := false
  deriving DecidableEq

/-- What an evaluation leaves: its result, the gate, the bridge, and the send it made if it made
one. -/
structure EvaluateOutcome where
  result : VoidResult
  gate : SotifPlausibilityGate
  bridge : IpcBridge
  sent : Option IpcSend := none

namespace SotifPlausibilityGate

variable (gate : SotifPlausibilityGate)

/-- Takes the thresholds if they are in range.
Source: `SotifPlausibilityGate.cpp`, `SotifPlausibilityGate::Init`. -/
def init (config : SotifPlausibilityConfig) : VoidResult × SotifPlausibilityGate :=
  if !gate.ipc then (.err .kNullPointer, gate)
  else if ¬ config.Valid then (.err .kInvalidArgument, gate)
  else (.ok, { gate with config, initialised := true })

/-- Source: `SotifPlausibilityGate.cpp`, `SotifPlausibilityGate::CheckFreshnessAndSequence`. -/
def checkFreshnessAndSequence (c : PerceptionCandidateEvent) (nowMs : UInt32) :
    Bool × SotifRejectReason :=
  if nowMs < c.timestampMs then (false, .kInvalidInput)
  else if nowMs - c.timestampMs > gate.config.maxInputAgeMs then (false, .kStaleInput)
  else if gate.hasPriorSample = true ∧ c.sequenceNum ≤ gate.lastSequence then
    (false, .kSequenceAnomaly)
  else (true, .kNone)

/-- Source: `SotifPlausibilityGate.cpp`, `SotifPlausibilityGate::CheckCrossEstimateConfidence`. -/
def checkCrossEstimateConfidence (c : PerceptionCandidateEvent) : Bool × SotifRejectReason :=
  if ¬ c.primaryConfidence.isFinite ∨ ¬ c.secondaryConfidence.isFinite ∨
      c.primaryConfidence < 0.0 ∨ c.primaryConfidence > 1.0 ∨
      c.secondaryConfidence < 0.0 ∨ c.secondaryConfidence > 1.0 then
    (false, .kInvalidInput)
  else if c.primaryConfidence < gate.config.minConfidence ∨
      c.secondaryConfidence < gate.config.minConfidence then
    (false, .kLowConfidence)
  else
    let disagreement := (c.primaryConfidence - c.secondaryConfidence).abs
    if disagreement > gate.config.maxConfidenceDisagreement then
      (false, .kCrossEstimateDisagreement)
    else (true, .kNone)

/-- Source: `SotifPlausibilityGate.cpp`, `SotifPlausibilityGate::CheckCalibrationDrift`. -/
def checkCalibrationDrift (c : PerceptionCandidateEvent) : Bool × SotifRejectReason :=
  if ¬ c.calibrationDriftMetric.isFinite ∨ c.calibrationDriftMetric < 0.0 then
    (false, .kInvalidInput)
  else if c.calibrationDriftMetric > gate.config.maxCalibrationDrift then
    (false, .kCalibrationDrift)
  else (true, .kNone)

/-- The command of a rejection: "conservative", with the gate's own counter and caps.
Source: `SotifPlausibilityGate.cpp`, `SotifPlausibilityGate::EscalateToSafeState`. -/
def escalationCommand (reason : SafeState) : SafeStateCommand where
  state := reason
  activeDomains := 0xFF
  faultBitmask := 0x00
  maxSpeedKph := 30.0
  transitionMs := 0
  sequenceNum := gate.escalationSequence

/-- Sends the command of a rejection, with the reject reason as the event's session, and drops the
result of the send.
Source: `SotifPlausibilityGate.cpp`, `SotifPlausibilityGate::EscalateToSafeState`. -/
def escalateToSafeState (bridge : IpcBridge) (reason : SafeState) :
    SotifPlausibilityGate × IpcBridge × Option IpcSend :=
  if !gate.ipc then (gate, bridge, none)
  else
    let cmd := gate.escalationCommand reason
    let event := cmd.event gate.lastRejectReason.toUInt8.toUInt32
    let (result, bridge) := bridge.send event
    ({ gate with escalationSequence := gate.escalationSequence + 1 }, bridge,
      some { event, result })

/-- The three checks of an evaluation, in their order: whether the candidate is accepted, and the
reason if it is not. -/
def verdict (c : PerceptionCandidateEvent) (nowMs : UInt32) : Bool × SotifRejectReason :=
  if !(gate.checkFreshnessAndSequence c nowMs).1 then
    (false, (gate.checkFreshnessAndSequence c nowMs).2)
  else if !(gate.checkCrossEstimateConfidence c).1 then
    (false, (gate.checkCrossEstimateConfidence c).2)
  else if !(gate.checkCalibrationDrift c).1 then (false, (gate.checkCalibrationDrift c).2)
  else (true, .kNone)

/-- The replay guard after a candidate: it moves forward only. -/
def advance (c : PerceptionCandidateEvent) : SotifPlausibilityGate :=
  if !gate.hasPriorSample ∨ c.sequenceNum > gate.lastSequence then
    { gate with lastSequence := c.sequenceNum, hasPriorSample := true }
  else gate

/-- Judges one candidate.
Source: `SotifPlausibilityGate.cpp`, `SotifPlausibilityGate::Evaluate`. -/
def evaluate (bridge : IpcBridge) (candidate : PerceptionCandidateEvent) (nowMs : UInt32) :
    EvaluateOutcome :=
  if !gate.initialised then { result := .err .kNotInitialized, gate, bridge }
  else if !gate.ipc then { result := .err .kNullPointer, gate, bridge }
  else
    let (accepted, reason) := gate.verdict candidate nowMs
    let gate := { gate.advance candidate with lastRejectReason := reason }
    if accepted then
      { result := .ok, gate := { gate with acceptCount := gate.acceptCount + 1 }, bridge }
    else
      let gate := { gate with rejectCount := gate.rejectCount + 1 }
      let (gate, bridge, sent) := gate.escalateToSafeState bridge .kReducedDynamics
      { result := .err .kInvalidArgument, gate, bridge, sent }

/-- Decodes a candidate from an event and judges it.
Source: `SotifPlausibilityGate.cpp`, `SotifPlausibilityGate::IngestSoaEvent`. -/
def ingestSoaEvent (bridge : IpcBridge) (event : SoaEvent) (nowMs : UInt32) : EvaluateOutcome :=
  if event.payloadLen ≠ sizeofPerceptionCandidateEvent then
    { result := .err .kInvalidArgument, gate, bridge }
  else
    gate.evaluate bridge (PerceptionCandidateEvent.ofEvent event) nowMs

/-- Source: `SotifPlausibilityGate.cpp`, `SotifPlausibilityGate::GetLastRejectReason`. -/
def getLastRejectReason : SotifRejectReason := gate.lastRejectReason

/-- Source: `SotifPlausibilityGate.cpp`, `SotifPlausibilityGate::GetAcceptCount`. -/
def getAcceptCount : UInt32 := gate.acceptCount

/-- Source: `SotifPlausibilityGate.cpp`, `SotifPlausibilityGate::GetRejectCount`. -/
def getRejectCount : UInt32 := gate.rejectCount

/-! ### What a call does -/

/-- **The two outcomes of `Init`**: it takes the thresholds, or it fails and changes nothing. -/
theorem init_cases (gate : SotifPlausibilityGate) (config : SotifPlausibilityConfig) :
    ((gate.ipc = true ∧ config.Valid) ∧
        gate.init config = (.ok, { gate with config, initialised := true })) ∨
      (¬ (gate.ipc = true ∧ config.Valid) ∧
        (gate.init config).1 ≠ .ok ∧ (gate.init config).2 = gate) := by
  by_cases hready : gate.ipc = true ∧ config.Valid
  · refine Or.inl ⟨hready, ?_⟩
    simp [init, hready.1, hready.2]
  · refine Or.inr ⟨hready, ?_⟩
    unfold init
    split_ifs with hipc hvalid
    · exact ⟨by simp, rfl⟩
    · exact absurd ⟨by simpa using hipc, hvalid⟩ hready
    · exact ⟨by simp, rfl⟩

section evaluate

variable {gate} {bridge : IpcBridge} {c : PerceptionCandidateEvent} {nowMs : UInt32}

/-- Moving the guard leaves the bridge pointer. -/
@[simp] theorem advance_ipc : (gate.advance c).ipc = gate.ipc := by
  unfold advance
  split_ifs <;> rfl

/-- Moving the guard leaves the thresholds. -/
@[simp] theorem advance_config : (gate.advance c).config = gate.config := by
  unfold advance
  split_ifs <;> rfl

/-- Moving the guard leaves the gate initialised or not. -/
@[simp] theorem advance_initialised : (gate.advance c).initialised = gate.initialised := by
  unfold advance
  split_ifs <;> rfl

/-- Moving the guard leaves the number of the next command. -/
@[simp] theorem advance_escalationSequence :
    (gate.advance c).escalationSequence = gate.escalationSequence := by
  unfold advance
  split_ifs <;> rfl

/-- Moving the guard leaves the count of acceptances. -/
@[simp] theorem advance_acceptCount : (gate.advance c).acceptCount = gate.acceptCount := by
  unfold advance
  split_ifs <;> rfl

/-- Moving the guard leaves the count of rejections. -/
@[simp] theorem advance_rejectCount : (gate.advance c).rejectCount = gate.rejectCount := by
  unfold advance
  split_ifs <;> rfl

/-- The gate after an accepted candidate. -/
def accepted (gate : SotifPlausibilityGate) (c : PerceptionCandidateEvent) :
    SotifPlausibilityGate :=
  { gate.advance c with
    lastRejectReason := .kNone
    acceptCount := (gate.advance c).acceptCount + 1 }

/-- The gate after a rejected candidate. -/
def rejected (gate : SotifPlausibilityGate) (c : PerceptionCandidateEvent)
    (reason : SotifRejectReason) : SotifPlausibilityGate :=
  { gate.advance c with
    lastRejectReason := reason
    rejectCount := (gate.advance c).rejectCount + 1
    escalationSequence := gate.escalationSequence + 1 }

/-- An acceptance leaves the bridge pointer. -/
@[simp] theorem accepted_ipc : (gate.accepted c).ipc = gate.ipc := by
  simp [accepted]

/-- An acceptance leaves the thresholds. -/
@[simp] theorem accepted_config : (gate.accepted c).config = gate.config := by
  simp [accepted]

/-- An acceptance leaves the gate initialised or not. -/
@[simp] theorem accepted_initialised : (gate.accepted c).initialised = gate.initialised := by
  simp [accepted]

/-- An acceptance clears the reject reason. -/
@[simp] theorem accepted_lastRejectReason : (gate.accepted c).lastRejectReason = .kNone := rfl

/-- An acceptance is counted. -/
@[simp] theorem accepted_acceptCount : (gate.accepted c).acceptCount = gate.acceptCount + 1 := by
  simp [accepted]

/-- An acceptance leaves the count of rejections. -/
@[simp] theorem accepted_rejectCount : (gate.accepted c).rejectCount = gate.rejectCount := by
  simp [accepted]

/-- An acceptance takes no command number. -/
@[simp] theorem accepted_escalationSequence :
    (gate.accepted c).escalationSequence = gate.escalationSequence := by
  simp [accepted]

/-- A rejection leaves the bridge pointer. -/
@[simp] theorem rejected_ipc (reason : SotifRejectReason) :
    (gate.rejected c reason).ipc = gate.ipc := by
  simp [rejected]

/-- A rejection leaves the thresholds. -/
@[simp] theorem rejected_config (reason : SotifRejectReason) :
    (gate.rejected c reason).config = gate.config := by
  simp [rejected]

/-- A rejection leaves the gate initialised or not. -/
@[simp] theorem rejected_initialised (reason : SotifRejectReason) :
    (gate.rejected c reason).initialised = gate.initialised := by
  simp [rejected]

/-- A rejection keeps its reason. -/
@[simp] theorem rejected_lastRejectReason (reason : SotifRejectReason) :
    (gate.rejected c reason).lastRejectReason = reason := rfl

/-- A rejection leaves the count of acceptances. -/
@[simp] theorem rejected_acceptCount (reason : SotifRejectReason) :
    (gate.rejected c reason).acceptCount = gate.acceptCount := by
  simp [rejected]

/-- A rejection is counted. -/
@[simp] theorem rejected_rejectCount (reason : SotifRejectReason) :
    (gate.rejected c reason).rejectCount = gate.rejectCount + 1 := by
  simp [rejected]

/-- A rejection takes a command number. -/
@[simp] theorem rejected_escalationSequence (reason : SotifRejectReason) :
    (gate.rejected c reason).escalationSequence = gate.escalationSequence + 1 := rfl

/-- The event a rejection sends. -/
def rejectionEvent (gate : SotifPlausibilityGate) (reason : SotifRejectReason) : SoaEvent :=
  (gate.escalationCommand .kReducedDynamics).event reason.toUInt8.toUInt32

/-- An accepted candidate has no reject reason. -/
theorem verdict_accepted (h : (gate.verdict c nowMs).1 = true) :
    (gate.verdict c nowMs).2 = .kNone := by
  unfold verdict at h ⊢
  split_ifs at h ⊢
  rfl

/-- **The three outcomes of an evaluation**: an unready gate does not judge and changes nothing; a
judged candidate is accepted, and the bridge is left alone, or it is rejected, and one send is
made. -/
theorem evaluate_cases (gate : SotifPlausibilityGate) (bridge : IpcBridge)
    (c : PerceptionCandidateEvent) (nowMs : UInt32) :
    (¬ (gate.initialised = true ∧ gate.ipc = true) ∧
        ((gate.evaluate bridge c nowMs).result = .err .kNotInitialized ∨
          (gate.evaluate bridge c nowMs).result = .err .kNullPointer) ∧
        (gate.evaluate bridge c nowMs).gate = gate ∧
        (gate.evaluate bridge c nowMs).bridge = bridge ∧
        (gate.evaluate bridge c nowMs).sent = none) ∨
      ((gate.initialised = true ∧ gate.ipc = true) ∧ (gate.verdict c nowMs).1 = true ∧
        gate.evaluate bridge c nowMs =
          { result := .ok, gate := gate.accepted c, bridge }) ∨
      ((gate.initialised = true ∧ gate.ipc = true) ∧ (gate.verdict c nowMs).1 = false ∧
        gate.evaluate bridge c nowMs =
          { result := .err .kInvalidArgument
            gate := gate.rejected c (gate.verdict c nowMs).2
            bridge := (bridge.send (gate.rejectionEvent (gate.verdict c nowMs).2)).2
            sent := some
              { event := gate.rejectionEvent (gate.verdict c nowMs).2
                result := (bridge.send (gate.rejectionEvent (gate.verdict c nowMs).2)).1 } }) := by
  by_cases hinit : gate.initialised = true
  · by_cases hipc : gate.ipc = true
    · apply Or.inr
      by_cases hv : (gate.verdict c nowMs).1 = true
      · refine Or.inl ⟨⟨hinit, hipc⟩, hv, ?_⟩
        simp [evaluate, hinit, hipc, hv, accepted, verdict_accepted hv]
      · have hv' : (gate.verdict c nowMs).1 = false := by simpa using hv
        refine Or.inr ⟨⟨hinit, hipc⟩, hv', ?_⟩
        simp [evaluate, hinit, hipc, hv', escalateToSafeState, rejected, rejectionEvent,
          escalationCommand]
    · refine Or.inl ⟨fun h => hipc h.2, ?_⟩
      simp [evaluate, hinit, hipc]
  · refine Or.inl ⟨fun h => hinit h.1, ?_⟩
    simp [evaluate, hinit]

end evaluate

end SotifPlausibilityGate

end SotifPlausibility.Sotif
