import SotifPlausibility.Found.Machine
import SotifPlausibility.Soa.IpcQueue
import SotifPlausibility.Sotif.Gate

/-!
# The gate in its surroundings

A gate, the bridge it shares with other senders, and the M7 consumer, as one machine whose inputs
come in any order and number.

* `gateMachine` — its steps: calls of the gate, calls of the bridge by others, reads by the
  consumer.
* What the outside sees of a run: `judged` (the candidate a step gave a verdict on),
  `acceptedCandidate`, `isRejection`, `lastConfig` (the thresholds in force). They read the inputs
  and outputs of a history, never the gate's state.
* `gateStep_cases` — the three kinds of step; `gateStep_effects` — what a step does to the bridge
  and the escalation counter.
-/

namespace SotifPlausibility.Sotif

open SotifPlausibility.Found SotifPlausibility.Soa

/-! ### The machine -/

/-- A gate and the bridge its pointer points to. -/
structure GateSystem where
  gate : SotifPlausibilityGate
  bridge : IpcBridge

/-- What can happen to them. -/
inductive GateInput where
  | init (config : SotifPlausibilityConfig)
  | evaluate (candidate : PerceptionCandidateEvent) (nowMs : UInt32)
  | ingestSoaEvent (event : SoaEvent) (nowMs : UInt32)
  /-- Another part of the gateway initialises the bridge. -/
  | bridgeInit
  /-- Another sender uses the bridge. -/
  | foreignSend (event : SoaEvent)
  /-- The M7 consumer reads a slot. -/
  | consumerPop

/-- What a step shows: the result of the call, the send it made, the slot the consumer read. -/
structure GateOutput where
  result : VoidResult
  sent : Option IpcSend := none
  popped : Option IpcSlot := none

/-- The step of the machine. -/
def gateStep (s : GateSystem) : GateInput → GateOutput × GateSystem
  | .init config =>
      ({ result := (s.gate.init config).1 }, { s with gate := (s.gate.init config).2 })
  | .evaluate candidate nowMs =>
      let out := s.gate.evaluate s.bridge candidate nowMs
      ({ result := out.result, sent := out.sent }, { gate := out.gate, bridge := out.bridge })
  | .ingestSoaEvent event nowMs =>
      let out := s.gate.ingestSoaEvent s.bridge event nowMs
      ({ result := out.result, sent := out.sent }, { gate := out.gate, bridge := out.bridge })
  | .bridgeInit => ({ result := s.bridge.init.1 }, { s with bridge := s.bridge.init.2 })
  | .foreignSend event =>
      ({ result := (s.bridge.send event).1
         sent := some { event, result := (s.bridge.send event).1 } },
        { s with bridge := (s.bridge.send event).2 })
  | .consumerPop =>
      ({ result := .ok, popped := s.bridge.pop.1 }, { s with bridge := s.bridge.pop.2 })

/-- The gate in its surroundings. -/
def gateMachine : Machine GateSystem GateInput GateOutput := ⟨gateStep⟩

@[simp] theorem gateMachine_step (s : GateSystem) (i : GateInput) :
    gateMachine.step s i = gateStep s i := rfl

/-- A step of a run. -/
abbrev GateEntry := Entry GateSystem GateInput GateOutput

/-- A new gate with a bridge pointer, and any bridge. -/
def GateSystem.start (bridge : IpcBridge) : GateSystem := { gate := { ipc := true }, bridge }

/-! ### What the outside sees -/

/-- The candidate an input asks the gate to judge. An event of the wrong length carries none. -/
def GateInput.candidate : GateInput → Option PerceptionCandidateEvent
  | .evaluate candidate _ => some candidate
  | .ingestSoaEvent event _ =>
      if event.payloadLen = sizeofPerceptionCandidateEvent then
        some (PerceptionCandidateEvent.ofEvent event)
      else none
  | _ => none

/-- The candidate a step gave a verdict on. -/
def judged (e : GateEntry) : Option PerceptionCandidateEvent :=
  if e.output.result = .ok ∨ e.output.result = .err .kInvalidArgument then e.input.candidate
  else none

/-- The candidate a step accepted. -/
def acceptedCandidate (e : GateEntry) : Option PerceptionCandidateEvent :=
  if e.output.result = .ok then e.input.candidate else none

/-- The step rejected a candidate. -/
def isRejection (e : GateEntry) : Bool :=
  e.output.result = .err .kInvalidArgument ∧ e.input.candidate.isSome

/-- The thresholds a successful `Init` put in force. -/
def initConfig (e : GateEntry) : Option SotifPlausibilityConfig :=
  match e.input with
  | .init config => if e.output.result = .ok then some config else none
  | _ => none

/-- The thresholds of the last successful `Init`. -/
def lastConfig (h : List GateEntry) : Option SotifPlausibilityConfig :=
  (h.filterMap initConfig).getLast?

/-- The sequence numbers of the candidates that got a verdict, oldest first. -/
def judgedNumbers (h : List GateEntry) : List UInt32 :=
  (h.filterMap judged).map (·.sequenceNum)

/-! ### What a step is -/

section step

variable (s : GateSystem)

/-- **The three kinds of step**: an `Init`, the judging of a candidate, or one that leaves the gate
alone. -/
theorem gateStep_cases (i : GateInput) :
    (∃ config, i = .init config) ∨
      (∃ c nowMs, i.candidate = some c ∧ initConfig (gateMachine.entry s i) = none ∧
        gateStep s i =
          ({ result := (s.gate.evaluate s.bridge c nowMs).result
             sent := (s.gate.evaluate s.bridge c nowMs).sent },
            { gate := (s.gate.evaluate s.bridge c nowMs).gate
              bridge := (s.gate.evaluate s.bridge c nowMs).bridge })) ∨
      (i.candidate = none ∧ initConfig (gateMachine.entry s i) = none ∧
        (gateStep s i).2.gate = s.gate) := by
  cases i with
  | init config => exact Or.inl ⟨config, rfl⟩
  | evaluate c nowMs => exact Or.inr (Or.inl ⟨c, nowMs, rfl, rfl, rfl⟩)
  | ingestSoaEvent event nowMs =>
      by_cases hlen : event.payloadLen = sizeofPerceptionCandidateEvent
      · refine Or.inr (Or.inl ⟨_, nowMs, if_pos hlen, rfl, ?_⟩)
        simp [gateStep, SotifPlausibilityGate.ingestSoaEvent, hlen]
      · refine Or.inr (Or.inr ⟨if_neg hlen, rfl, ?_⟩)
        simp [gateStep, SotifPlausibilityGate.ingestSoaEvent, hlen]
  | bridgeInit => exact Or.inr (Or.inr ⟨rfl, rfl, rfl⟩)
  | foreignSend event => exact Or.inr (Or.inr ⟨rfl, rfl, rfl⟩)
  | consumerPop => exact Or.inr (Or.inr ⟨rfl, rfl, rfl⟩)

/-- An input with a candidate evaluates it. -/
theorem gateStep_of_candidate {i : GateInput} {c : PerceptionCandidateEvent}
    (hcand : i.candidate = some c) :
    ∃ nowMs, initConfig (gateMachine.entry s i) = none ∧
      gateStep s i =
        ({ result := (s.gate.evaluate s.bridge c nowMs).result
           sent := (s.gate.evaluate s.bridge c nowMs).sent },
          { gate := (s.gate.evaluate s.bridge c nowMs).gate
            bridge := (s.gate.evaluate s.bridge c nowMs).bridge }) := by
  rcases gateStep_cases s i with ⟨config, rfl⟩ | ⟨c', nowMs, hcand', hinit, hstep⟩ | ⟨hnone, -, -⟩
  · exact absurd hcand (by simp [GateInput.candidate])
  · obtain rfl := Option.some.inj (hcand'.symm.trans hcand)
    exact ⟨nowMs, hinit, hstep⟩
  · exact absurd (hcand.symm.trans hnone) (by simp)

/-- A rejection has a reason. -/
theorem verdict_rejected {gate : SotifPlausibilityGate} {c : PerceptionCandidateEvent}
    {nowMs : UInt32} (h : (gate.verdict c nowMs).1 = false) :
    (gate.verdict c nowMs).2 ≠ .kNone := by
  unfold SotifPlausibilityGate.verdict at h ⊢
  split_ifs at h ⊢ with hfresh hconf hdrift
  · unfold SotifPlausibilityGate.checkFreshnessAndSequence at hfresh ⊢
    split_ifs at hfresh ⊢ <;> simp at hfresh ⊢
  · unfold SotifPlausibilityGate.checkCrossEstimateConfidence at hconf ⊢
    dsimp only at hconf ⊢
    split_ifs at hconf ⊢ <;> simp at hconf ⊢
  · unfold SotifPlausibilityGate.checkCalibrationDrift at hdrift ⊢
    split_ifs at hdrift ⊢ <;> simp at hdrift ⊢

/-- **What a step does to the bridge and the escalation counter**: a rejection makes one send and
counts it; another sender makes a send; the consumer reads; any other step leaves both alone, up to
an `Init` of the bridge. -/
theorem gateStep_effects (i : GateInput) :
    (isRejection (gateMachine.entry s i) = true ∧ i.candidate.isSome ∧ ∃ reason ≠ .kNone,
        (gateStep s i).1.sent = some
          { event := s.gate.rejectionEvent reason
            result := (s.bridge.send (s.gate.rejectionEvent reason)).1 } ∧
        (gateStep s i).1.popped = none ∧
        (gateStep s i).2.bridge = (s.bridge.send (s.gate.rejectionEvent reason)).2 ∧
        (gateStep s i).2.gate.lastRejectReason = reason ∧
        (gateStep s i).2.gate.escalationSequence = s.gate.escalationSequence + 1) ∨
      (isRejection (gateMachine.entry s i) = false ∧
        (gateStep s i).2.gate.escalationSequence = s.gate.escalationSequence ∧
        ((∃ event, i = .foreignSend event) ∨ i = .consumerPop ∨
          ((gateStep s i).1.sent = none ∧ (gateStep s i).1.popped = none ∧
            ((gateStep s i).2.bridge = s.bridge ∨
              (gateStep s i).2.bridge = s.bridge.init.2)))) := by
  have hno : i.candidate = none → isRejection (gateMachine.entry s i) = false := by
    intro hcand
    simp [isRejection, hcand]
  rcases gateStep_cases s i with ⟨config, rfl⟩ | ⟨c, nowMs, hcand, -, hstep⟩ | ⟨hcand, -, hgate⟩
  · refine Or.inr ⟨hno rfl, ?_, Or.inr (Or.inr ⟨rfl, rfl, Or.inl rfl⟩)⟩
    simp only [gateStep, SotifPlausibilityGate.init]
    split_ifs <;> rfl
  · rcases s.gate.evaluate_cases s.bridge c nowMs with
      ⟨-, hres, hgate, hbridge, hsent⟩ | ⟨-, -, hout⟩ | ⟨-, hv, hout⟩
    · refine Or.inr ⟨?_, ?_, Or.inr (Or.inr ⟨?_, ?_, Or.inl ?_⟩)⟩
      · rcases hres with hres | hres <;> simp [isRejection, hstep, hres]
      · rw [hstep, hgate]
      · rw [hstep, hsent]
      · rw [hstep]
      · rw [hstep, hbridge]
    · refine Or.inr ⟨?_, ?_, Or.inr (Or.inr ⟨?_, ?_, Or.inl ?_⟩)⟩
      · simp [isRejection, hstep, hout]
      · simp [hstep, hout]
      · rw [hstep, hout]
      · rw [hstep]
      · rw [hstep, hout]
    · refine Or.inl ⟨?_, by simp [hcand], (s.gate.verdict c nowMs).2, verdict_rejected hv, ?_⟩
      · simp [isRejection, hstep, hout, hcand]
      · rw [hstep, hout]
        exact ⟨rfl, rfl, rfl, rfl, rfl⟩
  · refine Or.inr ⟨hno hcand, by rw [hgate], ?_⟩
    cases i with
    | init config => exact Or.inr (Or.inr ⟨rfl, rfl, Or.inl rfl⟩)
    | evaluate c nowMs => simp [GateInput.candidate] at hcand
    | ingestSoaEvent event nowMs =>
        have hlen : event.payloadLen ≠ sizeofPerceptionCandidateEvent := by
          intro hlen
          simp [GateInput.candidate, hlen] at hcand
        refine Or.inr (Or.inr ?_)
        simp [gateStep, SotifPlausibilityGate.ingestSoaEvent, hlen]
    | bridgeInit => exact Or.inr (Or.inr ⟨rfl, rfl, Or.inr rfl⟩)
    | foreignSend event => exact Or.inl ⟨event, rfl⟩
    | consumerPop => exact Or.inr (Or.inl rfl)

/-- Every step keeps the bridge sound. -/
theorem sound_step (h : s.bridge.Sound) (i : GateInput) :
    (gateStep s i).2.bridge.Sound := by
  rcases gateStep_effects s i with
    ⟨-, -, reason, -, -, -, hbridge, -⟩ | ⟨-, -, ⟨event, rfl⟩ | rfl | ⟨-, -, hbridge⟩⟩
  · rw [hbridge]
    exact IpcBridge.sound_send h _
  · exact IpcBridge.sound_send h _
  · exact IpcBridge.sound_pop h
  · rcases hbridge with hbridge | hbridge
    · rw [hbridge]
      exact h
    · rw [hbridge]
      exact IpcBridge.sound_init h

variable (h : List GateEntry) (e : GateEntry)

/-- The numbers judged, by the last step. -/
theorem judgedNumbers_concat :
    judgedNumbers (h ++ [e]) = judgedNumbers h ++ ((judged e).map (·.sequenceNum)).toList := by
  unfold judgedNumbers
  rw [filterMap_concat, List.map_append, Option.toList_map]

/-- The thresholds last put in force, by the last step. -/
theorem lastConfig_concat :
    lastConfig (h ++ [e]) = (initConfig e).or (lastConfig h) :=
  getLast?_filterMap_concat initConfig h e

end step

end SotifPlausibility.Sotif
