import SotifPlausibility.Sotif.Consumer

/-!
# Two senders on one safe-state channel

The gate and the arbitrator send their commands under the same reserved ids over the same bridge,
and neither keeps a view of the other.

* `channelMachine` — the arbitrator's operations, evaluations of the gate and reads of the consumer,
  in any order.
* `channelCommand` — the command a step put on the channel, as a receiver decodes it, with its
  sender; `lastCommand` — the latest one.
* `channelStep_effects` — what a step puts on the channel: a rejection at most the gate's command, a
  cycle of the arbitrator at most one transition.
* `rejection_not_relaxing_iff` — a rejection relaxes the restriction in force exactly when that is
  a minimal-risk condition.

Source: `README.md`, "the same reserved channel"; `SafetyArbitrator.hpp`, `SafeStateCommand`.
-/

namespace SotifPlausibility.Sotif

open SotifPlausibility.Found SotifPlausibility.Soa

/-! ### The machine -/

/-- A gate and an arbitrator bound to one bridge. -/
structure ChannelSystem where
  gate : SotifPlausibilityGate
  arbitrator : SafetyArbitrator
  bridge : IpcBridge

/-- What can happen to them. -/
inductive ChannelInput where
  | ingestFault (fault : SensorFaultEvent) (nowMs : UInt64)
  | recordHeartbeat (domain : SensorDomain) (nowMs : UInt64)
  | arbitrate (clock : ClockReadings)
  | evaluate (candidate : PerceptionCandidateEvent) (nowMs : UInt32)
  /-- The M7 consumer reads a slot. -/
  | consumerPop

/-- What a step shows: the result of the call and the send it made. -/
structure ChannelOutput where
  result : VoidResult
  sent : Option IpcSend := none

/-- The step of the machine. -/
def channelStep (s : ChannelSystem) : ChannelInput → ChannelOutput × ChannelSystem
  | .ingestFault fault nowMs =>
      let out := s.arbitrator.ingestFault fault nowMs
      ({ result := out.1 }, { s with arbitrator := out.2 })
  | .recordHeartbeat domain nowMs =>
      let out := s.arbitrator.recordHeartbeat domain nowMs
      ({ result := out.1 }, { s with arbitrator := out.2 })
  | .arbitrate clock =>
      let out := s.arbitrator.arbitrate s.bridge clock
      ({ result := out.result, sent := out.sent },
        { s with arbitrator := out.arbitrator, bridge := out.bridge })
  | .evaluate candidate nowMs =>
      let out := s.gate.evaluate s.bridge candidate nowMs
      ({ result := out.result, sent := out.sent },
        { s with gate := out.gate, bridge := out.bridge })
  | .consumerPop => ({ result := .ok }, { s with bridge := s.bridge.pop.2 })

/-- The two senders on their channel. -/
def channelMachine : Machine ChannelSystem ChannelInput ChannelOutput := ⟨channelStep⟩

@[simp] theorem channelMachine_step (s : ChannelSystem) (i : ChannelInput) :
    channelMachine.step s i = channelStep s i := rfl

/-- A step of a run. -/
abbrev ChannelEntry := Entry ChannelSystem ChannelInput ChannelOutput

/-- A new gate and a new arbitrator after their `Init`, on a bridge. -/
def ChannelSystem.start (bridge : IpcBridge) (config : SotifPlausibilityConfig)
    (mandatoryDomains : UInt8) (nowMs : UInt64) : ChannelSystem where
  gate := (SotifPlausibilityGate.init { ipc := true } config).2
  arbitrator := (SafetyArbitrator.init { ipc := true } mandatoryDomains nowMs).2
  bridge := bridge

/-! ### The channel -/

/-- Who sent a command. -/
inductive Sender where
  | gate
  | arbitrator
  deriving DecidableEq, Repr

/-- The sender that acts on an input. -/
def ChannelInput.sender : ChannelInput → Sender
  | .evaluate _ _ => .gate
  | _ => .arbitrator

/-- The command a step enqueued under the reserved ids, as a receiver decodes it. -/
def channelCommand (e : ChannelEntry) : Option (Sender × SafeStateCommand) :=
  e.output.sent.bind fun send =>
    if send.result = .ok ∧ send.event.serviceId = 0xFF00 ∧ send.event.eventId = 0xFF01 then
      (SafeStateCommand.ofEvent send.event).map fun cmd => (e.input.sender, cmd)
    else none

/-- The commands enqueued on the channel, oldest first. -/
def channelCommands (h : List ChannelEntry) : List (Sender × SafeStateCommand) :=
  h.filterMap channelCommand

/-- The latest command enqueued on the channel. -/
def lastCommand (h : List ChannelEntry) : Option (Sender × SafeStateCommand) :=
  (channelCommands h).getLast?

/-- The commands on the channel, by the last step. -/
theorem channelCommands_concat (h : List ChannelEntry) (e : ChannelEntry) :
    channelCommands (h ++ [e]) = channelCommands h ++ (channelCommand e).toList :=
  filterMap_concat channelCommand h e

/-! ### What a step puts on the channel -/

/-- Both senders are bound to the bridge, and the arbitrator is initialised. -/
structure Bound (s : ChannelSystem) : Prop where
  gate : s.gate.ipc = true
  arbitrator : s.arbitrator.ipc = true
  initialised : s.arbitrator.initialised = true

/-- The number of the next command of a sender. -/
def nextNumber (s : ChannelSystem) : Sender → UInt32
  | .gate => s.gate.escalationSequence
  | .arbitrator => s.arbitrator.sequenceNum + 1

/-- The commands a sender can put on the channel: its own number, a state other than an emergency
stop, and the speed cap the arbitrator gives that state. -/
structure IsCommandOf (s : ChannelSystem) (sender : Sender) (cmd : SafeStateCommand) : Prop where
  sequenceNum : cmd.sequenceNum = nextNumber s sender
  state : cmd.state ≠ .kEmergencyStop
  maxSpeedKph : cmd.maxSpeedKph = (SafetyArbitrator.caps cmd.state).1
  gate : sender = .gate → cmd.state = .kReducedDynamics

section effects

variable {s : ChannelSystem}

/-- What a step that sends a command puts on the channel. -/
theorem channelCommand_of_sent {e : ChannelEntry} {cmd : SafeStateCommand} {sessionId : UInt32}
    {result : VoidResult} (hsent : e.output.sent = some { event := cmd.event sessionId, result })
    (hreserved : cmd.reserved = 0) :
    channelCommand e = if result = .ok then some (e.input.sender, cmd) else none := by
  have hself : { cmd with reserved := 0 } = cmd := by rw [← hreserved]
  unfold channelCommand
  rw [hsent, Option.bind_some, cmd.ofEvent_event, hself]
  by_cases hok : result = .ok
  · rw [if_pos hok, if_pos ⟨hok, rfl, rfl⟩]
    rfl
  · rw [if_neg hok, if_neg fun h => hok h.1]

/-- A step that passes nothing to the bridge has no command. -/
theorem channelCommand_of_none {e : ChannelEntry} (hsent : e.output.sent = none) :
    channelCommand e = none := by
  unfold channelCommand
  rw [hsent]
  rfl

/-- **What a step does to the channel**: it makes no send and moves no counter, or its sender sends
one command of its own and counts it, whether or not the bridge takes it. -/
theorem channelStep_effects (hbound : Bound s) (i : ChannelInput) :
    Bound (channelStep s i).2 ∧
      (((channelStep s i).1.sent = none ∧
          (channelStep s i).2.gate.escalationSequence = s.gate.escalationSequence ∧
          (channelStep s i).2.arbitrator.sequenceNum = s.arbitrator.sequenceNum) ∨
        ∃ cmd sessionId result, IsCommandOf s i.sender cmd ∧ cmd.reserved = 0 ∧
          (channelStep s i).1.sent = some { event := cmd.event sessionId, result } ∧
          (channelStep s i).2.gate.escalationSequence =
            s.gate.escalationSequence + (if i.sender = .gate then 1 else 0) ∧
          (channelStep s i).2.arbitrator.sequenceNum =
            s.arbitrator.sequenceNum + (if i.sender = .arbitrator then 1 else 0)) := by
  obtain ⟨hgate, harb, hinit⟩ := hbound
  cases i with
  | ingestFault fault nowMs =>
      obtain ⟨hipc, hinit', hseq⟩ := s.arbitrator.ingestFault_frame fault nowMs
      exact ⟨⟨hgate, hipc.trans harb, hinit'.trans hinit⟩, Or.inl ⟨rfl, rfl, hseq⟩⟩
  | recordHeartbeat domain nowMs =>
      obtain ⟨hipc, hinit', hseq⟩ := s.arbitrator.recordHeartbeat_frame domain nowMs
      exact ⟨⟨hgate, hipc.trans harb, hinit'.trans hinit⟩, Or.inl ⟨rfl, rfl, hseq⟩⟩
  | arbitrate clock =>
      rcases @SafetyArbitrator.arbitrateWith_cases _ s.bridge clock
          SafetyArbitrator.computeRequiredState harb hinit with
        ⟨hsent, -, hseq, -, hipc, hinit'⟩ | ⟨target, htarget, -, -, hout⟩
      · exact ⟨⟨hgate, hipc, hinit'⟩, Or.inl ⟨hsent, rfl, hseq⟩⟩
      · -- a transition, from the arbitrator the matrix saw
        obtain ⟨hsent, -, hseq, -, hipc, hinit'⟩ := @SafetyArbitrator.executeTransition_spec
          (s.arbitrator.scanned clock.scan) s.bridge clock target harb
        have hstep : s.arbitrator.arbitrate s.bridge clock =
            (s.arbitrator.scanned clock.scan).executeTransition s.bridge target clock := hout
        have hstate : target ≠ .kEmergencyStop := by
          rw [htarget]
          exact SafetyArbitrator.computeRequiredState_ne_emergencyStop _
        simp only [channelStep, hstep]
        refine ⟨⟨hgate, hipc, hinit'.trans hinit⟩, Or.inr
          ⟨(s.arbitrator.scanned clock.scan).transitionCommand target, _, _,
            ⟨rfl, hstate, rfl, by simp [ChannelInput.sender]⟩, rfl, hsent, ?_, hseq⟩⟩
        simp [ChannelInput.sender]
  | evaluate c nowMs =>
      rcases s.gate.evaluate_cases s.bridge c nowMs with
        ⟨-, -, hsame, -, hsent⟩ | ⟨-, -, hout⟩ | ⟨-, -, hout⟩
      · refine ⟨⟨?_, harb, hinit⟩, Or.inl ⟨hsent, ?_, rfl⟩⟩
        · simpa [channelStep, hsame] using hgate
        · simp [channelStep, hsame]
      · refine ⟨⟨?_, harb, hinit⟩, Or.inl ⟨?_, ?_, rfl⟩⟩
        · simpa [channelStep, hout] using hgate
        · simp [channelStep, hout]
        · simp [channelStep, hout]
      · generalize (s.gate.verdict c nowMs).2 = reason at hout
        have hsent : (channelStep s (.evaluate c nowMs)).1.sent = some
            { event := (s.gate.escalationCommand .kReducedDynamics).event reason.toUInt8.toUInt32
              result := (s.bridge.send (s.gate.rejectionEvent reason)).1 } := by
          simp only [channelStep, hout]
          rfl
        have hof : IsCommandOf s .gate (s.gate.escalationCommand .kReducedDynamics) :=
          ⟨rfl, by simp [SotifPlausibilityGate.escalationCommand], rfl, fun _ => rfl⟩
        refine ⟨⟨?_, harb, hinit⟩, Or.inr ⟨s.gate.escalationCommand .kReducedDynamics, _, _,
          hof, rfl, hsent, ?_, ?_⟩⟩
        · simpa [channelStep, hout] using hgate
        · simp [channelStep, hout, ChannelInput.sender]
        · simp [channelStep, ChannelInput.sender]
  | consumerPop => exact ⟨⟨hgate, harb, hinit⟩, Or.inl ⟨rfl, rfl, rfl⟩⟩

end effects

/-! ### Runs -/

section runs

variable {h : List ChannelEntry} {s : ChannelSystem}

/-- At the start both senders are bound to the bridge. -/
theorem bound_start (bridge : IpcBridge) (config : SotifPlausibilityConfig)
    (mandatoryDomains : UInt8) (nowMs : UInt64) :
    Bound (ChannelSystem.start bridge config mandatoryDomains nowMs) where
  gate := by
    simp only [ChannelSystem.start, SotifPlausibilityGate.init]
    split_ifs <;> rfl
  arbitrator := rfl
  initialised := rfl

/-- Every run leaves both bound to it. -/
theorem bound_run (hs : Bound s) (is : List ChannelInput) : Bound (channelMachine.final s is) :=
  channelMachine.final_induction hs (fun _ i hb => (channelStep_effects hb i).1) is

/-- The command of a step is one of its sender's. -/
theorem channelCommand_isCommandOf (hs : Bound s) {i : ChannelInput} {sender : Sender}
    {cmd : SafeStateCommand}
    (hcmd : channelCommand (channelMachine.entry s i) = some (sender, cmd)) :
    sender = i.sender ∧ IsCommandOf s sender cmd := by
  rcases (channelStep_effects hs i).2 with ⟨hnone, -⟩ | ⟨cmd', sid, result, hof, hres, hsent, -⟩
  · rw [channelCommand_of_none (e := channelMachine.entry s i) hnone] at hcmd
    exact absurd hcmd (by simp)
  · rw [channelCommand_of_sent (e := channelMachine.entry s i) hsent hres] at hcmd
    split_ifs at hcmd
    obtain ⟨rfl, rfl⟩ := Prod.mk.inj (Option.some.inj hcmd)
    exact ⟨rfl, hof⟩

/-- Every command on the channel of a run has a state other than an emergency stop, with the
arbitrator's speed cap for it. -/
theorem channelCommands_caps (hs : Bound s) (is : List ChannelInput) :
    ∀ p ∈ channelCommands (channelMachine.history s is),
      p.2.state ≠ .kEmergencyStop ∧
        p.2.maxSpeedKph = (SafetyArbitrator.caps p.2.state).1 := by
  have hrun : Bound (channelMachine.final s is) ∧
      ∀ p ∈ channelCommands (channelMachine.history s is), p.2.state ≠ .kEmergencyStop ∧
        p.2.maxSpeedKph = (SafetyArbitrator.caps p.2.state).1 := by
    apply channelMachine.run_induction
      (P := fun h t => Bound t ∧ ∀ p ∈ channelCommands h, p.2.state ≠ .kEmergencyStop ∧
        p.2.maxSpeedKph = (SafetyArbitrator.caps p.2.state).1)
    · refine ⟨hs, ?_⟩
      intro p hp
      exact absurd hp List.not_mem_nil
    · rintro h t i ⟨hb, hall⟩
      refine ⟨(channelStep_effects hb i).1, ?_⟩
      intro p hp
      rw [channelCommands_concat] at hp
      rcases List.mem_append.mp hp with hp | hp
      · exact hall p hp
      · obtain ⟨-, hof⟩ := channelCommand_isCommandOf hb (Option.mem_toList.mp hp)
        exact ⟨hof.state, hof.maxSpeedKph⟩
  exact hrun.2

end runs

/-! ### Severity -/

section severity

/-- A command does not relax the restriction of the one before: it is at least as severe and caps
the speed at most as high. -/
def NotRelaxing (prev cmd : SafeStateCommand) : Prop :=
  prev.state ≤ cmd.state ∧ cmd.maxSpeedKph ≤ prev.maxSpeedKph

/-- Among the states on the channel, reduced dynamics relaxes only a minimal-risk condition. -/
theorem notRelaxing_iff {prev cmd : SafeStateCommand} (hprev : prev.state ≠ .kEmergencyStop)
    (hprevSpeed : prev.maxSpeedKph = (SafetyArbitrator.caps prev.state).1)
    (hcmd : cmd.state = .kReducedDynamics)
    (hcmdSpeed : cmd.maxSpeedKph = (SafetyArbitrator.caps cmd.state).1) :
    NotRelaxing prev cmd ↔ prev.state ≠ .kMinimalRiskCondition := by
  unfold NotRelaxing
  rw [hcmdSpeed, hprevSpeed, hcmd]
  generalize prev.state = state at hprev
  cases state with
  | kEmergencyStop => exact absurd rfl hprev
  | kMinimalRiskCondition => decide
  | _ => decide

/-- **When a rejection relaxes the restriction in force.** In every run of the two senders on one
bridge, a rejection that puts a command on the channel does not relax the latest command before it
exactly when that one is not a minimal-risk condition. -/
theorem rejection_not_relaxing_iff (bridge : IpcBridge) (config : SotifPlausibilityConfig)
    (mandatoryDomains : UInt8) (nowMs : UInt64) (is : List ChannelInput)
    (pre post : List ChannelEntry) (e : ChannelEntry)
    (hsplit : channelMachine.history (ChannelSystem.start bridge config mandatoryDomains nowMs) is =
      pre ++ e :: post)
    (cmd : SafeStateCommand) (hcmd : channelCommand e = some (.gate, cmd)) :
    (∀ p ∈ lastCommand pre, NotRelaxing p.2 cmd) ↔
      ∀ p ∈ lastCommand pre, p.2.state ≠ .kMinimalRiskCondition := by
  obtain ⟨is₁, i, is₂, -, rfl, rfl, -⟩ := channelMachine.history_eq_append_cons hsplit
  have hstart := bound_start bridge config mandatoryDomains nowMs
  obtain ⟨-, hof⟩ := channelCommand_isCommandOf (bound_run hstart is₁) hcmd
  apply forall₂_congr
  intro p hp
  obtain ⟨hstate, hspeed⟩ := channelCommands_caps hstart is₁ p (List.mem_of_getLast? hp)
  exact notRelaxing_iff hstate hspeed (hof.gate rfl) hof.maxSpeedKph

/-- A start with default thresholds and no mandatory domain, on an initialised bridge. -/
def plainStart : ChannelSystem := ChannelSystem.start (freshBridge staleMemory) {} 0 0

/-- A cycle of the arbitrator at the start of the clock. -/
def firstCycle : ChannelInput := .arbitrate { scan := 0, start := 0, finish := 0, log := 0 }

/-- A candidate too old at 500 ms. -/
def staleEvaluation : ChannelInput := .evaluate (nominalCandidate 1.5) 500

/-- The LiDAR fails. -/
def lidarFails : ChannelInput := .ingestFault { domain := .kLidar, health := .kFailed } 0

/-- The radar fails. -/
def radarFails : ChannelInput := .ingestFault { domain := .kRadar, health := .kFailed } 0

/-- `rejection_not_relaxing_iff` for a rejection after the loss of the LiDAR alone. -/
theorem rejection_not_relaxing_fallback :
    let pre := channelMachine.history plainStart [lidarFails, firstCycle]
    let s := channelMachine.final plainStart [lidarFails, firstCycle]
    (lastCommand pre).map (·.2.state) = some .kRadarCameraFallback ∧
      ∀ p ∈ lastCommand pre, NotRelaxing p.2 (s.gate.escalationCommand .kReducedDynamics) := by
  intro pre s
  have hlast : ∀ p ∈ lastCommand pre, p.2.state ≠ .kMinimalRiskCondition := by decide +kernel
  have hcmd : channelCommand (channelMachine.entry s staleEvaluation) =
      some (.gate, s.gate.escalationCommand .kReducedDynamics) := by decide +kernel
  exact ⟨by decide +kernel, (rejection_not_relaxing_iff (freshBridge staleMemory) {} 0 0
    [lidarFails, firstCycle, staleEvaluation] pre [] _ rfl _ hcmd).mpr hlast⟩

/-- LiDAR and radar fail, and the arbitrator commands a minimal-risk condition. A rejection after it
lowers the severity from 6 to 5 and raises the speed cap from 20 to 30 km/h. -/
theorem rejection_relaxes :
    let is := [lidarFails, radarFails, firstCycle]
    let pre := channelMachine.history plainStart is
    let e := channelMachine.entry (channelMachine.final plainStart is) staleEvaluation
    ∃ prev cmd : SafeStateCommand,
      channelMachine.history plainStart (is ++ [staleEvaluation]) = pre ++ [e] ∧
      lastCommand pre = some (.arbitrator, prev) ∧ channelCommand e = some (.gate, cmd) ∧
      prev.state = .kMinimalRiskCondition ∧ prev.maxSpeedKph = 20.0 ∧
      cmd.state = .kReducedDynamics ∧ cmd.maxSpeedKph = 30.0 ∧ ¬ NotRelaxing prev cmd := by
  refine
    ⟨((channelMachine.final plainStart [lidarFails, radarFails]).arbitrator.scanned
        0).transitionCommand .kMinimalRiskCondition,
      (channelMachine.final plainStart
        [lidarFails, radarFails, firstCycle]).gate.escalationCommand .kReducedDynamics,
      rfl, ?_, ?_, rfl, rfl, rfl, rfl, ?_⟩
  · decide +kernel
  · decide +kernel
  · rintro ⟨hstate, -⟩
    exact absurd hstate (by decide)

end severity

end SotifPlausibility.Sotif
