import SotifPlausibility.Soa.TransitionLog
import SotifPlausibility.Sotif.SharedChannel

/-!
# Commands that do not reach the channel

The arbitrator changes its state whether or not the bridge takes the command, and sends a command
only when its state changes. The gate fills the same ring.

* `Changes`, `stateChanges` — the steps of a run that change the arbitrator's state.
* `arbitratorStep_cases` — such a step sends one command, and it is taken while fewer than 31 slots
  wait; every other step sends none and reports nothing.
* `arbitrator_commands_on_channel` — so the commands on the channel are the changes, less those that
  met a full ring.
* `lost_command_stays_lost` — a command that met a full ring is not sent again.

Source: `SafetyArbitrator.cpp`, `SafetyArbitrator::ExecuteTransition` and
`SafetyArbitrator::Arbitrate`; `IpcBridge.cpp`, `IpcBridge::Send`.
-/

namespace SotifPlausibility.Sotif

open SotifPlausibility.Found SotifPlausibility.Soa

/-! ### Changes and commands -/

/-- The step changed the arbitrator's state. -/
def Changes (e : ChannelEntry) : Prop :=
  e.after.arbitrator.getCurrentState ≠ e.before.arbitrator.getCurrentState

instance (e : ChannelEntry) : Decidable (Changes e) := inferInstanceAs (Decidable (_ ≠ _))

/-- The steps that changed it, oldest first. -/
def stateChanges (h : List ChannelEntry) : List ChannelEntry := h.filter fun e => Changes e

/-- The command of the arbitrator that a step put on the channel. -/
def arbitratorCommand (e : ChannelEntry) : Option SafeStateCommand :=
  (channelCommand e).bind fun p => if p.1 = .arbitrator then some p.2 else none

/-- The commands of the arbitrator on the channel, oldest first. -/
def arbitratorCommands (h : List ChannelEntry) : List SafeStateCommand :=
  h.filterMap arbitratorCommand

/-- The ring had room before the step. -/
def HadRoom (e : ChannelEntry) : Prop := e.before.bridge.queue.length < 31

instance (e : ChannelEntry) : Decidable (HadRoom e) := inferInstanceAs (Decidable (_ < _))

/-- The number and the state of a command. -/
def numberAndState (cmd : SafeStateCommand) : UInt32 × SafeState := (cmd.sequenceNum, cmd.state)

/-- The number and the state of the command of the `k`-th change. -/
def changeNumberAndState (p : ChannelEntry × ℕ) : UInt32 × SafeState :=
  (UInt32.ofNat p.2, p.1.after.arbitrator.getCurrentState)

/-! ### Steps -/

section step

variable {arb : SafetyArbitrator} {bridge : IpcBridge} {clock : ClockReadings}
  {matrix : SafetyArbitrator → SafeState}

/-- A cycle that leaves the state alone sends nothing and reports nothing. -/
theorem arbitrateWith_of_unchanged (hinit : arb.initialised = true)
    (hsame : (arb.arbitrateWith matrix bridge clock).arbitrator.currentState = arb.currentState) :
    (arb.arbitrateWith matrix bridge clock).result = .ok ∧
      (arb.arbitrateWith matrix bridge clock).sent = none := by
  unfold SafetyArbitrator.arbitrateWith at hsame ⊢
  dsimp only at hsame ⊢
  rw [if_neg (by simp [hinit])] at hsame ⊢
  split_ifs at hsame ⊢ with hrequired hstop
  · exact ⟨rfl, rfl⟩
  · exact ⟨rfl, rfl⟩
  · -- a transition would have changed it
    exact absurd hsame hrequired

/-- A transition whose command the bridge refuses reports it. -/
theorem result_executeTransition {target : SafeState} (hipc : arb.ipc = true)
    (hrefused : (bridge.send
      ((arb.transitionCommand target).event (arb.sequenceNum + 1))).1 ≠ .ok) :
    (arb.executeTransition bridge target clock).result ≠ .ok := by
  simp only [SafetyArbitrator.executeTransition, SafetyArbitrator.sendCommandToM7, hipc,
    Bool.not_true, Bool.false_eq_true, if_false]
  rw [SafetyArbitrator.transitionCommand] at hrefused ⊢
  split_ifs <;> simp

variable {s : ChannelSystem}

/-- The bridge takes a command while fewer than 31 slots wait. -/
theorem send_command_ok_iff (hready : bridge.Ready) (cmd : SafeStateCommand) (sessionId : UInt32) :
    (bridge.send (cmd.event sessionId)).1 = .ok ↔ bridge.queue.length < 31 := by
  rw [IpcBridge.send_ok_iff, IpcBridge.takes_iff_queue hready]
  exact and_iff_right (cmd.event_payloadLen_le sessionId)

/-- A step that sends no command of the arbitrator puts none on the channel. -/
theorem arbitratorCommand_of_gate {e : ChannelEntry} (h : e.input.sender = .gate) :
    arbitratorCommand e = none := by
  unfold arbitratorCommand channelCommand
  rw [h]
  cases e.output.sent with
  | none => rfl
  | some send =>
      rw [Option.bind_some]
      split_ifs
      · cases SafeStateCommand.ofEvent send.event <;> rfl
      · rfl

/-- A step that passes nothing to the bridge has no command. -/
theorem arbitratorCommand_of_none {e : ChannelEntry} (h : e.output.sent = none) :
    arbitratorCommand e = none := by
  unfold arbitratorCommand
  rw [channelCommand_of_none h]
  rfl

/-- A step that sends a command of the arbitrator puts it on the channel if it is taken. -/
theorem arbitratorCommand_of_sent {e : ChannelEntry} {cmd : SafeStateCommand} {sessionId : UInt32}
    {result : VoidResult} (hsender : e.input.sender = .arbitrator)
    (hsent : e.output.sent = some { event := cmd.event sessionId, result })
    (hreserved : cmd.reserved = 0) :
    arbitratorCommand e = if result = .ok then some cmd else none := by
  unfold arbitratorCommand
  rw [channelCommand_of_sent hsent hreserved, hsender]
  split_ifs <;> rfl

/-- A step that leaves the arbitrator's state and counter alone, and of the arbitrator's sends none
and reports nothing. -/
structure Quiet (e : ChannelEntry) : Prop where
  unchanged : ¬ Changes e
  sequenceNum : e.after.arbitrator.sequenceNum = e.before.arbitrator.sequenceNum
  command : arbitratorCommand e = none
  cycle : ∀ clock, e.input = .arbitrate clock → e.output.result = .ok ∧ e.output.sent = none

/-- A step that changes the arbitrator's state. Its command is on the channel if the ring had room,
and is reported missing if not. -/
structure Transits (e : ChannelEntry) : Prop where
  changes : Changes e
  sequenceNum : e.after.arbitrator.sequenceNum = e.before.arbitrator.sequenceNum + 1
  command : ∃ cmd, numberAndState cmd =
      (e.after.arbitrator.sequenceNum, e.after.arbitrator.getCurrentState) ∧
    arbitratorCommand e = if HadRoom e then some cmd else none
  refused : ¬ HadRoom e → e.output.result ≠ .ok

/-- A cycle leaves the bridge ready: it sends nothing, or one command. -/
theorem ready_arbitrate (hbound : Bound s) (hready : s.bridge.Ready) (clock : ClockReadings) :
    (channelMachine.entry s (.arbitrate clock)).after.bridge.Ready := by
  show (s.arbitrator.arbitrate s.bridge clock).bridge.Ready
  rcases @SafetyArbitrator.arbitrateWith_cases _ s.bridge clock
      SafetyArbitrator.computeRequiredState hbound.arbitrator hbound.initialised with
    ⟨-, hbridge, -⟩ | ⟨target, -, -, -, hout⟩
  · have hafter : (s.arbitrator.arbitrate s.bridge clock).bridge = s.bridge := hbridge
    rw [hafter]
    exact hready
  · obtain ⟨-, hbridge, -⟩ := @SafetyArbitrator.executeTransition_spec
      (s.arbitrator.scanned clock.scan) s.bridge clock target hbound.arbitrator
    have hrun : s.arbitrator.arbitrate s.bridge clock =
        (s.arbitrator.scanned clock.scan).executeTransition s.bridge target clock := hout
    rw [hrun, hbridge]
    exact IpcBridge.ready_send hready _

/-- A judged candidate leaves the bridge ready: it sends nothing, or one rejection. -/
theorem ready_evaluate (hready : s.bridge.Ready) (c : PerceptionCandidateEvent) (nowMs : UInt32) :
    (s.gate.evaluate s.bridge c nowMs).bridge.Ready := by
  rcases s.gate.evaluate_cases s.bridge c nowMs with ⟨-, -, -, hsame, -⟩ | ⟨-, -, hout⟩ |
    ⟨-, -, hout⟩
  · rw [hsame]
    exact hready
  · rw [hout]
    exact hready
  · rw [hout]
    exact IpcBridge.ready_send hready _

/-- What a cycle does. -/
theorem arbitrate_cases (hbound : Bound s) (hready : s.bridge.Ready) (clock : ClockReadings) :
    let e := channelMachine.entry s (.arbitrate clock)
    Quiet e ∨ Transits e := by
  intro e
  rcases @SafetyArbitrator.arbitrateWith_cases _ s.bridge clock
      SafetyArbitrator.computeRequiredState hbound.arbitrator hbound.initialised with
    ⟨hsent, -, hseq, hstate, -, -⟩ | ⟨target, -, hne, -, hout⟩
  · refine Or.inl ⟨not_not.mpr hstate, hseq, arbitratorCommand_of_none hsent, ?_⟩
    intro _ _
    exact arbitrateWith_of_unchanged hbound.initialised hstate
  · -- a transition, from the arbitrator the matrix saw
    let seen := s.arbitrator.scanned clock.scan
    obtain ⟨hsent, -, hseq, hstate, -, -⟩ :=
      @SafetyArbitrator.executeTransition_spec seen s.bridge clock target hbound.arbitrator
    have hrun : s.arbitrator.arbitrate s.bridge clock =
        seen.executeTransition s.bridge target clock := hout
    have hresult : e.output.result = (s.arbitrator.arbitrate s.bridge clock).result := rfl
    have hsend : e.output.sent = (s.arbitrator.arbitrate s.bridge clock).sent := rfl
    have harb : e.after.arbitrator = (s.arbitrator.arbitrate s.bridge clock).arbitrator := rfl
    rw [hrun] at hresult hsend harb
    rw [hsent] at hsend
    have hok := send_command_ok_iff hready (seen.transitionCommand target) (seen.sequenceNum + 1)
    refine Or.inr ⟨?_, ?_, ⟨seen.transitionCommand target, ?_, ?_⟩, ?_⟩
    · unfold Changes SafetyArbitrator.getCurrentState
      rw [harb, hstate]
      exact hne
    · rw [harb]
      exact hseq
    · unfold SafetyArbitrator.getCurrentState
      rw [harb, hseq, hstate]
      rfl
    · rw [arbitratorCommand_of_sent rfl hsend rfl]
      exact if_congr hok rfl rfl
    · intro hroom
      rw [hresult]
      exact result_executeTransition hbound.arbitrator (mt hok.mp hroom)

/-- **What a step does for the arbitrator.** -/
theorem arbitratorStep_cases (hbound : Bound s) (hready : s.bridge.Ready) (i : ChannelInput) :
    let e := channelMachine.entry s i
    e.after.bridge.Ready ∧ (Quiet e ∨ Transits e) := by
  intro e
  cases i with
  | ingestFault fault nowMs =>
      have haudit := @audit_ingestFault s.arbitrator fault nowMs
      refine ⟨hready, Or.inl ⟨?_, congrArg AuditPart.sequenceNum haudit,
        arbitratorCommand_of_none rfl, fun _ h => ChannelInput.noConfusion h⟩⟩
      exact not_not.mpr (congrArg AuditPart.currentState haudit)
  | recordHeartbeat domain nowMs =>
      have haudit := @audit_recordHeartbeat s.arbitrator domain nowMs
      refine ⟨hready, Or.inl ⟨?_, congrArg AuditPart.sequenceNum haudit,
        arbitratorCommand_of_none rfl, fun _ h => ChannelInput.noConfusion h⟩⟩
      exact not_not.mpr (congrArg AuditPart.currentState haudit)
  | consumerPop =>
      exact ⟨(IpcBridge.queue_pop hready).1, Or.inl ⟨not_not.mpr rfl, rfl,
        arbitratorCommand_of_none rfl, fun _ h => ChannelInput.noConfusion h⟩⟩
  | evaluate c nowMs =>
      exact ⟨ready_evaluate hready c nowMs, Or.inl ⟨not_not.mpr rfl, rfl,
        arbitratorCommand_of_gate rfl, fun _ h => ChannelInput.noConfusion h⟩⟩
  | arbitrate clock =>
      exact ⟨ready_arbitrate hbound hready clock, arbitrate_cases hbound hready clock⟩

end step

/-! ### Runs -/

section runs

variable {h : List ChannelEntry} {e : ChannelEntry} {s : ChannelSystem}

/-- A step that keeps the state is no change. -/
theorem stateChanges_concat_of_unchanged (he : ¬ Changes e) :
    stateChanges (h ++ [e]) = stateChanges h := by
  unfold stateChanges
  rw [List.filter_append]
  simp [he]

/-- A step that changes the state is one. -/
theorem stateChanges_concat_of_changes (he : Changes e) :
    stateChanges (h ++ [e]) = stateChanges h ++ [e] := by
  unfold stateChanges
  rw [List.filter_append]
  simp [he]

/-- The commands of the arbitrator, by the last step. -/
theorem arbitratorCommands_concat (h : List ChannelEntry) (e : ChannelEntry) :
    arbitratorCommands (h ++ [e]) = arbitratorCommands h ++ (arbitratorCommand e).toList :=
  filterMap_concat arbitratorCommand h e

/-- The changes whose command was taken, with their numbers from 1. -/
def takenChanges (h : List ChannelEntry) : List (ChannelEntry × ℕ) :=
  ((stateChanges h).zipIdx 1).filter fun p => HadRoom p.1

/-- A step that keeps the state adds none to the changes taken. -/
theorem takenChanges_concat_of_unchanged (he : ¬ Changes e) :
    takenChanges (h ++ [e]) = takenChanges h := by
  unfold takenChanges
  rw [stateChanges_concat_of_unchanged he]

/-- A change is taken if the ring has room. -/
theorem takenChanges_concat_of_changes (he : Changes e) :
    takenChanges (h ++ [e]) =
      takenChanges h ++ if HadRoom e then [(e, (stateChanges h).length + 1)] else [] := by
  unfold takenChanges
  rw [stateChanges_concat_of_changes he, List.zipIdx_append, List.filter_append]
  by_cases hroom : HadRoom e <;> simp [hroom, Nat.add_comm]

/-- The state the changes of a run lead to. -/
def changedState (h : List ChannelEntry) : SafeState :=
  ((stateChanges h).getLast?.map fun e => e.after.arbitrator.getCurrentState).getD .kFullOperation

/-- The arbitrator's counter, its state and its commands agree with the changes. -/
structure TransitionInv (h : List ChannelEntry) (s : ChannelSystem) : Prop where
  bound : Bound s
  ready : s.bridge.Ready
  counter : s.arbitrator.sequenceNum = UInt32.ofNat (stateChanges h).length
  state : s.arbitrator.getCurrentState = changedState h
  commands : (arbitratorCommands h).map numberAndState =
    (takenChanges h).map changeNumberAndState

/-- One step keeps the agreement. -/
theorem transitionInv_step (inv : TransitionInv h s) (i : ChannelInput) :
    TransitionInv (h ++ [channelMachine.entry s i]) (channelMachine.step s i).2 := by
  have hbound := (channelStep_effects inv.bound i).1
  obtain ⟨hready, hquiet | htransits⟩ := arbitratorStep_cases inv.bound inv.ready i
  · have hchanges := stateChanges_concat_of_unchanged (h := h) hquiet.unchanged
    refine ⟨hbound, hready, ?_, ?_, ?_⟩
    · rw [hchanges]
      exact hquiet.sequenceNum.trans inv.counter
    · unfold changedState
      rw [hchanges]
      exact (not_not.mp hquiet.unchanged).trans inv.state
    · rw [takenChanges_concat_of_unchanged hquiet.unchanged, arbitratorCommands_concat,
        hquiet.command]
      simpa using inv.commands
  · have hchanges := stateChanges_concat_of_changes (h := h) htransits.changes
    have hcounter : (channelMachine.entry s i).after.arbitrator.sequenceNum =
        UInt32.ofNat ((stateChanges h).length + 1) := by
      rw [htransits.sequenceNum, UInt32.ofNat_add, ← inv.counter]
      rfl
    refine ⟨hbound, hready, ?_, ?_, ?_⟩
    · rw [hchanges, List.length_append]
      exact hcounter
    · unfold changedState
      rw [hchanges, List.getLast?_concat]
      rfl
    · obtain ⟨cmd, hnumber, hcommand⟩ := htransits.command
      rw [takenChanges_concat_of_changes htransits.changes, arbitratorCommands_concat, hcommand,
        List.map_append, List.map_append, inv.commands]
      congr 1
      by_cases hroom : HadRoom (channelMachine.entry s i)
      · rw [if_pos hroom, if_pos hroom, Option.toList_some, List.map_singleton, hnumber, hcounter]
        rfl
      · rw [if_neg hroom, if_neg hroom]
        rfl

/-- A bridge just initialised is ready, whatever lay in its memory. -/
theorem freshBridge_ready : (freshBridge staleMemory).Ready :=
  (@IpcBridge.ready_init { ring := some staleMemory } rfl).1

variable (bridge : IpcBridge) (config : SotifPlausibilityConfig) (mandatoryDomains : UInt8)
  (nowMs : UInt64)

/-- Every run keeps the invariant. -/
theorem transitionInv_run (hready : bridge.Ready) (is : List ChannelInput) :
    TransitionInv
      (channelMachine.history (ChannelSystem.start bridge config mandatoryDomains nowMs) is)
      (channelMachine.final (ChannelSystem.start bridge config mandatoryDomains nowMs) is) := by
  apply channelMachine.run_induction (P := TransitionInv)
  · exact
      { bound := bound_start bridge config mandatoryDomains nowMs
        ready := hready
        counter := rfl
        state := rfl
        commands := rfl }
  · intro h t i inv
    exact transitionInv_step inv i

/-- **The arbitrator's commands on the channel.** In every run of the two senders and the consumer
on a ready bridge, the arbitrator's state is where its last change led, and its commands on the
channel are, in order, the numbers and the states of its changes, counted from 1, without those at
which 31 slots were waiting. So a gap in their numbers is a change that the receiver was not
told. -/
theorem arbitrator_commands_on_channel (hready : bridge.Ready) (is : List ChannelInput) :
    let start := ChannelSystem.start bridge config mandatoryDomains nowMs
    let h := channelMachine.history start is
    (channelMachine.final start is).arbitrator.getCurrentState = changedState h ∧
      (arbitratorCommands h).map numberAndState = (takenChanges h).map changeNumberAndState := by
  intro start h
  have inv := transitionInv_run bridge config mandatoryDomains nowMs hready is
  exact ⟨inv.state, inv.commands⟩

/-- `arbitrator_commands_on_channel` for the loss of the LiDAR. -/
theorem arbitrator_commands_lidar :
    (arbitratorCommands (channelMachine.history plainStart [lidarFails, firstCycle])).map
        numberAndState =
      (takenChanges (channelMachine.history plainStart [lidarFails, firstCycle])).map
        changeNumberAndState :=
  (arbitrator_commands_on_channel (freshBridge staleMemory) {} 0 0 freshBridge_ready
    [lidarFails, firstCycle]).2

/-- **A lost command stays lost.** Let a step of a run change the arbitrator's state while 31 slots
wait, and let the state stay as it is for any number of steps, in which the consumer may read them
all. The cycle reports the loss. No cycle after it sends or reports anything, and the arbitrator's
latest command on the channel is still the one before the change. -/
theorem lost_command_stays_lost (hready : bridge.Ready) {is : List ChannelInput}
    {pre mid post : List ChannelEntry}
    (hrun : channelMachine.history (ChannelSystem.start bridge config mandatoryDomains nowMs) is =
      pre ++ e :: (mid ++ post))
    (hchanges : Changes e) (hfull : 31 ≤ e.before.bridge.queue.length)
    (hmid : ∀ f ∈ mid, ¬ Changes f) :
    e.output.result ≠ .ok ∧
      (∀ f ∈ mid, ∀ clock, f.input = .arbitrate clock →
        f.output.result = .ok ∧ f.output.sent = none) ∧
      arbitratorCommands (pre ++ e :: mid) = arbitratorCommands pre := by
  -- every step of the run is quiet or a transition
  have hsteps : ∀ f ∈ pre ++ e :: (mid ++ post), Quiet f ∨ Transits f := by
    intro f hf
    obtain ⟨pre', post', hsplit⟩ := List.append_of_mem hf
    rw [← hrun] at hsplit
    obtain ⟨is₁, i, -, -, -, rfl, -⟩ := channelMachine.history_eq_append_cons hsplit
    have inv := transitionInv_run bridge config mandatoryDomains nowMs hready is₁
    exact (arbitratorStep_cases inv.bound inv.ready i).2
  have hquiet : ∀ f ∈ mid, Quiet f := by
    intro f hf
    rcases hsteps f (by simp [hf]) with hquiet | htransits
    · exact hquiet
    · exact absurd htransits.changes (hmid f hf)
  have htransits : Transits e := by
    rcases hsteps e (by simp) with hquiet | htransits
    · exact absurd hchanges hquiet.unchanged
    · exact htransits
  have hroom : ¬ HadRoom e := not_lt.mpr hfull
  refine ⟨htransits.refused hroom, fun f hf => (hquiet f hf).cycle, ?_⟩
  obtain ⟨cmd, -, hcommand⟩ := htransits.command
  have hnone : arbitratorCommands mid = [] :=
    List.filterMap_eq_nil_iff.mpr fun f hf => (hquiet f hf).command
  unfold arbitratorCommands at hnone ⊢
  rw [List.filterMap_append, List.filterMap_cons, hcommand, if_neg hroom, hnone, List.append_nil]

/-- 31 rejections that the consumer has not read, and then the loss of LiDAR and radar. -/
def flooded : List ChannelInput := List.replicate 31 staleEvaluation ++ [lidarFails, radarFails]

/-- `lost_command_stays_lost` for a minimal-risk condition behind 31 rejections. -/
theorem lost_command_flooded :
    let pre := channelMachine.history plainStart flooded
    let e := channelMachine.entry (channelMachine.final plainStart flooded) firstCycle
    let f := channelMachine.entry e.after firstCycle
    e.after.arbitrator.getCurrentState = .kMinimalRiskCondition ∧ e.output.result ≠ .ok ∧
      (f.output.result = .ok ∧ f.output.sent = none) ∧
      arbitratorCommands (pre ++ [e, f]) = arbitratorCommands pre := by
  intro pre e f
  have hrun : channelMachine.history plainStart (flooded ++ [firstCycle, firstCycle]) =
      pre ++ e :: ([f] ++ []) :=
    channelMachine.history_append plainStart flooded [firstCycle, firstCycle]
  have hstate : e.after.arbitrator.getCurrentState = .kMinimalRiskCondition := by decide +kernel
  have hchanges : Changes e := by decide +kernel
  have hfull : 31 ≤ e.before.bridge.queue.length := by decide +kernel
  have hmid : ∀ g ∈ [f], ¬ Changes g := by
    intro g hg
    obtain rfl := List.mem_singleton.mp hg
    decide +kernel
  obtain ⟨hreported, hquiet, hcommands⟩ := lost_command_stays_lost (freshBridge staleMemory) {} 0 0
    freshBridge_ready hrun hchanges hfull hmid
  exact ⟨hstate, hreported, hquiet f (List.mem_singleton_self f) _ rfl, hcommands⟩

end runs

end SotifPlausibility.Sotif
