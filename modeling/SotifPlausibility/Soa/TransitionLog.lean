import SotifPlausibility.Found.Machine
import SotifPlausibility.Found.RingLog
import SotifPlausibility.Soa.SafetyArbitrator

/-!
# The audit trail of the arbitrator

What can be read off an arbitrator after any run of its public operations: the transition log, the
last command, the number of transitions, and the calls of the listeners. All of it holds for every
degradation matrix, so for both copies of the source.

* `drainTransitionLog` — the log read backwards, as the source reads it; `injectFault` — the
  remaining way to report a fault.
* `callMachine` — an arbitrator under any order of its operations, from construction on, `Init` and
  its refusals included.
* `transitions` — the changes of state that are seen from outside in a run, with what is known of
  each when it happens.
* `AuditInv` — what the arbitrator keeps of them; `callStep_cases` — all a call can do to it.
* `drainTransitionLog_run`, `observers_agree`, `notified_run` — the log, the observers and the
  listeners over whole runs.

Source: `SafetyArbitrator.cpp` (either copy).
-/

namespace SotifPlausibility.Soa

open SotifPlausibility.Found

namespace SafetyArbitrator

variable (arb : SafetyArbitrator)

/-- Source: `SafetyArbitrator.cpp`, `SafetyArbitrator::GetFaultBitmask`. -/
def getFaultBitmask : UInt8 := arb.faultBitmask

/-- Source: `SafetyArbitrator.cpp`, `SafetyArbitrator::GetActiveDomainBitmask`. -/
def getActiveDomainBitmask : UInt8 := arb.activeBitmask

/-- Source: `SafetyArbitrator.cpp`, `SafetyArbitrator::GetLastCommand`. -/
def getLastCommand : SafeStateCommand := arb.lastCommand

/-- Source: `SafetyArbitrator.cpp`, `SafetyArbitrator::GetTransitionCount`. -/
def getTransitionCount : UInt32 := arb.transitionCount

/-- The newest entries of the log, newest first: their number and what is written to the buffer.
`hasBuffer` says whether the buffer pointer is not null.
Source: `SafetyArbitrator.cpp`, `SafetyArbitrator::DrainTransitionLog`. -/
def drainTransitionLog (hasBuffer : Bool) (bufferSize : UInt8) :
    UInt8 × List SafeStateTransition :=
  if !hasBuffer || bufferSize = 0 then (0, [])
  else
    let head := arb.logHead.toNat
    let count := if arb.transitionCount > 32 then 32 else arb.transitionCount.toUInt8
    let toCopy := if count < bufferSize then count else bufferSize
    (toCopy,
      (List.range toCopy.toNat).map fun i =>
        arb.transitionLog.get ⟨(head + 32 - 1 - i) % 32, Nat.mod_lt _ (Nat.zero_lt_succ 31)⟩)

/-- Reports a fault without an event. The clock is read for the report, and once more for a nominal
one.
Source: `SafetyArbitrator.cpp`, `SafetyArbitrator::InjectFault`. -/
def injectFault (domain : SensorDomain) (health : SensorHealth) (dtcCode : UInt32)
    (reportMs nowMs : UInt64) : VoidResult × SafetyArbitrator :=
  arb.ingestFault { domain, health, timestampMs := reportMs.toUInt32, faultCode := dtcCode } nowMs

end SafetyArbitrator

/-- The measured time of a transition, 0 if the clock ran backwards. -/
def ClockReadings.latencyMs (clock : ClockReadings) : UInt32 :=
  if clock.finish ≥ clock.start then (clock.finish - clock.start).toUInt32 else 0

/-! ### The arbitrator under any order of calls -/

/-- A call of a public operation, with the readings of the clock. Each cycle finds the bridge in any
state. -/
inductive ArbitratorCall where
  | init (mandatoryDomains : UInt8) (nowMs : UInt64)
  | registerListener (listener : Option SafeStateListener)
  | ingestFault (fault : SensorFaultEvent) (nowMs : UInt64)
  | ingestSoaEvent (event : SoaEvent) (nowMs : UInt64)
  | injectFault (domain : SensorDomain) (health : SensorHealth) (dtcCode : UInt32)
      (reportMs nowMs : UInt64)
  | recordHeartbeat (domain : SensorDomain) (nowMs : UInt64)
  | arbitrate (bridge : IpcBridge) (clock : ClockReadings)

/-- What a call gives: its result and the callbacks it invoked, in order. -/
structure CallOutcome where
  result : VoidResult
  notified : List (SafeStateListener × SafeStateCommand) := []

/-- A call and what it left. -/
abbrev CallEntry := Entry SafetyArbitrator ArbitratorCall CallOutcome

/-- The change of state a call made, as it is seen from outside. -/
def stateChange (e : CallEntry) : Option SafeStateTransition :=
  match e.input with
  | .arbitrate _ clock =>
      if e.after.getCurrentState = e.before.getCurrentState then none
      else
        some
          { fromState := e.before.getCurrentState
            toState := e.after.getCurrentState
            triggerDomain := e.after.triggerDomain
            timestampMs := clock.log
            transitionMs := clock.latencyMs }
  | _ => none

/-- The `k`-th change of a run, counted from 0, with its number. -/
def numbered (k : ℕ) (t : SafeStateTransition) : SafeStateTransition :=
  { t with sequenceNum := UInt32.ofNat (k + 1) }

/-- The changes of state of a run, oldest first, numbered from 1. -/
def transitions (h : List CallEntry) : List SafeStateTransition :=
  (h.filterMap stateChange).mapIdx numbered

/-- The listener a call added. -/
def registeredBy (e : CallEntry) : Option SafeStateListener :=
  match e.input with
  | .registerListener listener => if e.output.result = .ok then listener else none
  | _ => none

/-- The listeners a run added, in order. -/
def registered (h : List CallEntry) : List SafeStateListener := h.filterMap registeredBy

/-- A way through the states, each entry beginning where the one before it ended. -/
def IsTrail : SafeState → List SafeStateTransition → SafeState → Prop
  | s, [], t => s = t
  | s, e :: es, t => e.fromState = s ∧ e.toState ≠ s ∧ IsTrail e.toState es t

/-- A way goes on from where it ended. -/
theorem isTrail_concat {s t : SafeState} {es : List SafeStateTransition}
    (h : IsTrail s es t) {e : SafeStateTransition} (hfrom : e.fromState = t) (hto : e.toState ≠ t) :
    IsTrail s (es ++ [e]) e.toState := by
  induction es generalizing s with
  | nil =>
      have hst : s = t := h
      exact ⟨hfrom.trans hst.symm, hst ▸ hto, rfl⟩
  | cons e' es ih => exact ⟨h.1, h.2.1, ih h.2.2⟩

/-- A way ends where its last entry leads. -/
theorem IsTrail.toState_getLast {s t : SafeState} {es : List SafeStateTransition}
    (h : IsTrail s es t) {e : SafeStateTransition} (he : e ∈ es.getLast?) : e.toState = t := by
  induction es generalizing s with
  | nil => simp at he
  | cons e' es ih =>
      cases es with
      | nil =>
          obtain rfl := Option.some.inj he
          exact h.2.2
      | cons e'' es =>
          rw [List.getLast?_cons_cons] at he
          exact ih h.2.2 he

/-- The newest transition has the number of them all. -/
theorem sequenceNum_getLast {h : List CallEntry} {t : SafeStateTransition}
    (ht : t ∈ (transitions h).getLast?) :
    t.sequenceNum = UInt32.ofNat (transitions h).length := by
  unfold transitions at ht ⊢
  rw [List.getLast?_mapIdx, Option.mem_map] at ht
  obtain ⟨t', ht', rfl⟩ := ht
  have hne : h.filterMap stateChange ≠ [] := by
    intro hnil
    simp [hnil] at ht'
  have hpos := List.length_pos_iff.mpr hne
  have hlast : (h.filterMap stateChange).length - 1 + 1 = (h.filterMap stateChange).length := by
    omega
  rw [List.length_mapIdx, numbered, hlast]

section calls

variable (matrix : SafetyArbitrator → SafeState)

/-- The step of the machine. -/
def callStep (arb : SafetyArbitrator) : ArbitratorCall → CallOutcome × SafetyArbitrator
  | .init mandatoryDomains nowMs =>
      ({ result := (arb.init mandatoryDomains nowMs).1 }, (arb.init mandatoryDomains nowMs).2)
  | .registerListener listener =>
      ({ result := (arb.registerListener listener).1 }, (arb.registerListener listener).2)
  | .ingestFault fault nowMs =>
      ({ result := (arb.ingestFault fault nowMs).1 }, (arb.ingestFault fault nowMs).2)
  | .ingestSoaEvent event nowMs =>
      ({ result := (arb.ingestSoaEvent event nowMs).1 }, (arb.ingestSoaEvent event nowMs).2)
  | .injectFault domain health dtcCode reportMs nowMs =>
      ({ result := (arb.injectFault domain health dtcCode reportMs nowMs).1 },
        (arb.injectFault domain health dtcCode reportMs nowMs).2)
  | .recordHeartbeat domain nowMs =>
      ({ result := (arb.recordHeartbeat domain nowMs).1 }, (arb.recordHeartbeat domain nowMs).2)
  | .arbitrate bridge clock =>
      let out := arb.arbitrateWith matrix bridge clock
      ({ result := out.result, notified := out.notified }, out.arbitrator)

/-- The arbitrator over a degradation matrix. -/
def callMachine : Machine SafetyArbitrator ArbitratorCall CallOutcome := ⟨callStep matrix⟩

/-! ### What a call does to the audit trail -/

/-- The fields the audit trail is kept in. -/
structure AuditPart where
  transitionLog : Vector SafeStateTransition 32
  logHead : UInt8
  transitionCount : UInt32
  sequenceNum : UInt32
  currentState : SafeState
  lastCommand : SafeStateCommand
  listeners : List SafeStateListener
  initialised : Bool

/-- The audit trail of an arbitrator. -/
def SafetyArbitrator.audit (arb : SafetyArbitrator) : AuditPart where
  transitionLog := arb.transitionLog
  logHead := arb.logHead
  transitionCount := arb.transitionCount
  sequenceNum := arb.sequenceNum
  currentState := arb.currentState
  lastCommand := arb.lastCommand
  listeners := arb.listeners
  initialised := arb.initialised

/-- The audit trail `Init` starts with. What is in the log stays there. -/
def AuditPart.started (audit : AuditPart) : AuditPart :=
  { audit with
    logHead := 0
    transitionCount := 0
    sequenceNum := 0
    currentState := .kFullOperation
    lastCommand := {}
    listeners := []
    initialised := true }

/-- The audit trail after one more transition. -/
def AuditPart.append (audit : AuditPart) (t : SafeStateTransition) (cmd : SafeStateCommand) :
    AuditPart :=
  { audit with
    transitionLog := audit.transitionLog.setIfInBounds audit.logHead.toNat
      { t with sequenceNum := audit.transitionCount + 1 }
    logHead := (audit.logHead + 1) % 32
    transitionCount := audit.transitionCount + 1
    sequenceNum := audit.sequenceNum + 1
    currentState := t.toState
    lastCommand := cmd }

variable {arb : SafetyArbitrator}

/-- A report leaves the audit trail alone. -/
theorem audit_ingestFault (fault : SensorFaultEvent) (nowMs : UInt64) :
    (arb.ingestFault fault nowMs).2.audit = arb.audit := by
  unfold SafetyArbitrator.ingestFault
  dsimp only
  split_ifs <;> rfl

/-- An event leaves the audit trail alone. -/
theorem audit_ingestSoaEvent (event : SoaEvent) (nowMs : UInt64) :
    (arb.ingestSoaEvent event nowMs).2.audit = arb.audit := by
  unfold SafetyArbitrator.ingestSoaEvent
  split_ifs
  · rfl
  · rfl
  · exact audit_ingestFault _ nowMs

/-- A heartbeat leaves the audit trail alone. -/
theorem audit_recordHeartbeat (domain : SensorDomain) (nowMs : UInt64) :
    (arb.recordHeartbeat domain nowMs).2.audit = arb.audit := by
  unfold SafetyArbitrator.recordHeartbeat
  dsimp only
  split_ifs <;> rfl

/-- The command and the log entry of a transition that a call takes. -/
structure TakesTransition (arb : SafetyArbitrator) (e : CallEntry) (t : SafeStateTransition)
    (cmd : SafeStateCommand) : Prop where
  initialised : arb.initialised = true
  change : stateChange e = some t
  fromState : t.fromState = arb.currentState
  toState : t.toState ≠ arb.currentState
  audit : e.after.audit = arb.audit.append t cmd
  state : cmd.state = t.toState
  number : cmd.sequenceNum = arb.sequenceNum + 1
  latency : cmd.transitionMs = t.transitionMs
  notified : e.output.notified = arb.listeners.map fun listener => (listener, cmd)

/-- What a transition leaves in the audit trail and whom it calls. -/
theorem executeTransition_audit (arb : SafetyArbitrator) (bridge : IpcBridge)
    (target : SafeState) (clock : ClockReadings) :
    let out := arb.executeTransition bridge target clock
    let cmd := { arb.transitionCommand target with transitionMs := clock.latencyMs }
    out.arbitrator.audit = arb.audit.append
        { fromState := arb.currentState
          toState := target
          triggerDomain := arb.triggerDomain
          timestampMs := clock.log
          transitionMs := clock.latencyMs } cmd ∧
      out.notified = (arb.listeners.map fun listener => (listener, cmd)) ∧
      out.arbitrator.currentState = target ∧ out.arbitrator.triggerDomain = arb.triggerDomain :=
  ⟨rfl, rfl, rfl, rfl⟩

/-- **All a cycle can do to the audit trail**: nothing, or one transition. -/
theorem arbitrateStep_cases (arb : SafetyArbitrator) (bridge : IpcBridge)
    (clock : ClockReadings) :
    let e := (callMachine matrix).entry arb (.arbitrate bridge clock)
    (e.after.audit = arb.audit ∧ stateChange e = none ∧ e.output.notified = []) ∨
      ∃ t cmd, TakesTransition arb e t cmd := by
  intro e
  have hafter : e.after = (arb.arbitrateWith matrix bridge clock).arbitrator := rfl
  have hnotified : e.output.notified = (arb.arbitrateWith matrix bridge clock).notified := rfl
  have hquiet (haudit : e.after.audit = arb.audit) : stateChange e = none :=
    if_pos (congrArg AuditPart.currentState haudit)
  unfold SafetyArbitrator.arbitrateWith at hafter hnotified
  dsimp only at hafter hnotified
  split_ifs at hafter hnotified with hinit hsame hstop
  · have haudit : e.after.audit = arb.audit := by rw [hafter]
    exact Or.inl ⟨haudit, hquiet haudit, hnotified⟩
  · have haudit : e.after.audit = arb.audit := by
      rw [hafter]
      rfl
    exact Or.inl ⟨haudit, hquiet haudit, hnotified⟩
  · have haudit : e.after.audit = arb.audit := by
      rw [hafter]
      rfl
    exact Or.inl ⟨haudit, hquiet haudit, hnotified⟩
  · generalize matrix (arb.scanTimeouts clock.scan).updateBitmasks = target
      at hafter hnotified hsame
    obtain ⟨haudit, hcalls, hcurrent, htrigger⟩ := executeTransition_audit
      (arb.scanTimeouts clock.scan).updateBitmasks bridge target clock
    have hchanged : target ≠ arb.currentState := hsame
    rw [← hafter] at haudit hcurrent htrigger
    have hchange : stateChange e =
        if e.after.currentState = arb.currentState then none
        else
          some
            { fromState := arb.currentState
              toState := e.after.currentState
              triggerDomain := e.after.triggerDomain
              timestampMs := clock.log
              transitionMs := clock.latencyMs } := rfl
    rw [hcurrent, htrigger, if_neg hchanged] at hchange
    refine Or.inr ⟨_, _, by simpa using hinit, hchange, rfl, hchanged, haudit, rfl, rfl, rfl, ?_⟩
    rw [hnotified]
    exact hcalls

/-- **All a call can do to the audit trail**: nothing, a start, one more listener, or one
transition. -/
theorem callStep_cases (arb : SafetyArbitrator) (call : ArbitratorCall) :
    let e := (callMachine matrix).entry arb call
    (e.after.audit = arb.audit ∧ stateChange e = none ∧ registeredBy e = none ∧
        e.output.notified = []) ∨
      (arb.initialised = false ∧ e.after.audit = arb.audit.started ∧ stateChange e = none ∧
        registeredBy e = none ∧ e.output.notified = []) ∨
      (∃ listener, arb.initialised = true ∧ arb.listeners.length < 8 ∧
        e.after.audit = { arb.audit with listeners := arb.listeners ++ [listener] } ∧
        stateChange e = none ∧ registeredBy e = some listener ∧ e.output.notified = []) ∨
      registeredBy e = none ∧ ∃ t cmd, TakesTransition arb e t cmd := by
  intro e
  cases call with
  | init mandatoryDomains nowMs =>
      have hafter : e.after = (arb.init mandatoryDomains nowMs).2 := rfl
      unfold SafetyArbitrator.init at hafter
      split_ifs at hafter with hinit hipc
      · exact Or.inl ⟨by rw [hafter], rfl, rfl, rfl⟩
      · exact Or.inl ⟨by rw [hafter], rfl, rfl, rfl⟩
      · exact Or.inr (Or.inl ⟨by simpa using hinit, by rw [hafter]; rfl, rfl, rfl, rfl⟩)
  | registerListener listener =>
      have hafter : e.after = (arb.registerListener listener).2 := rfl
      have hresult : e.output.result = (arb.registerListener listener).1 := rfl
      have hregistered : registeredBy e = if e.output.result = .ok then listener else none := rfl
      unfold SafetyArbitrator.registerListener at hafter hresult
      cases listener with
      | none =>
          dsimp only at hafter hregistered
          rw [ite_self] at hregistered
          split_ifs at hafter
          · exact Or.inl ⟨by rw [hafter], rfl, hregistered, rfl⟩
          · exact Or.inl ⟨by rw [hafter], rfl, hregistered, rfl⟩
      | some listener =>
          dsimp only at hafter hresult
          split_ifs at hafter hresult with hinit hfull
          · rw [hresult, if_neg (by simp)] at hregistered
            exact Or.inl ⟨by rw [hafter], rfl, hregistered, rfl⟩
          · rw [hresult, if_neg (by simp)] at hregistered
            exact Or.inl ⟨by rw [hafter], rfl, hregistered, rfl⟩
          · rw [hresult, if_pos rfl] at hregistered
            refine Or.inr (Or.inr (Or.inl ⟨listener, by simpa using hinit, not_le.mp hfull, ?_, rfl,
              hregistered, rfl⟩))
            rw [hafter]
            rfl
  | ingestFault fault nowMs => exact Or.inl ⟨audit_ingestFault fault nowMs, rfl, rfl, rfl⟩
  | ingestSoaEvent event nowMs => exact Or.inl ⟨audit_ingestSoaEvent event nowMs, rfl, rfl, rfl⟩
  | injectFault domain health dtcCode reportMs nowMs =>
      exact Or.inl ⟨audit_ingestFault _ nowMs, rfl, rfl, rfl⟩
  | recordHeartbeat domain nowMs =>
      exact Or.inl ⟨audit_recordHeartbeat domain nowMs, rfl, rfl, rfl⟩
  | arbitrate bridge clock =>
      obtain ⟨haudit, hchange, hnotified⟩ | htransition :=
        arbitrateStep_cases matrix arb bridge clock
      · exact Or.inl ⟨haudit, hchange, rfl, hnotified⟩
      · exact Or.inr (Or.inr (Or.inr ⟨rfl, htransition⟩))

/-! ### Runs -/

/-- A call without a change of state adds no transition. -/
theorem transitions_concat_none {h : List CallEntry} {e : CallEntry} (he : stateChange e = none) :
    transitions (h ++ [e]) = transitions h := by
  rw [transitions, filterMap_concat, he]
  exact congrArg _ (List.append_nil _)

/-- A change of state adds a transition with the next number. -/
theorem transitions_concat_some {h : List CallEntry} {e : CallEntry} {t : SafeStateTransition}
    (he : stateChange e = some t) :
    transitions (h ++ [e]) = transitions h ++ [numbered (transitions h).length t] := by
  unfold transitions
  rw [filterMap_concat, he]
  simp [List.mapIdx_append]

/-- A call that adds no listener. -/
theorem registered_concat_none {h : List CallEntry} {e : CallEntry} (he : registeredBy e = none) :
    registered (h ++ [e]) = registered h := by
  rw [registered, filterMap_concat, he]
  exact List.append_nil _

/-- A call that adds a listener puts it last. -/
theorem registered_concat_some {h : List CallEntry} {e : CallEntry} {listener : SafeStateListener}
    (he : registeredBy e = some listener) :
    registered (h ++ [e]) = registered h ++ [listener] := by
  rw [registered, filterMap_concat, he]
  rfl

/-- The log as a ring. -/
def AuditPart.ringLog (audit : AuditPart) (hhead : audit.logHead.toNat < 32) :
    RingLog SafeStateTransition 32 :=
  ⟨audit.transitionLog, audit.logHead.toNat, hhead⟩

/-- What the audit trail keeps of a run: the last changes of state in the ring, their number, the
state they led to, the command of the last of them, and the listeners. Before `Init` there is
nothing to keep. -/
structure AuditInv (h : List CallEntry) (audit : AuditPart) : Prop where
  head : audit.logHead.toNat < 32
  log : (audit.ringLog head).Records (transitions h)
  count : audit.transitionCount = UInt32.ofNat (transitions h).length
  sequence : audit.sequenceNum = audit.transitionCount
  trail : IsTrail .kFullOperation (transitions h) audit.currentState
  commandState : audit.lastCommand.state = audit.currentState
  commandNumber : audit.lastCommand.sequenceNum = audit.sequenceNum
  commandLatency : ∀ t ∈ (transitions h).getLast?, audit.lastCommand.transitionMs = t.transitionMs
  listeners : audit.listeners = registered h
  room : audit.listeners.length ≤ 8
  idle : audit.initialised = false → transitions h = [] ∧ registered h = []

/-- A new arbitrator has an empty audit trail. -/
theorem auditInv_start (ipc : Bool) : AuditInv [] ({ ipc } : SafetyArbitrator).audit where
  head := Nat.zero_lt_succ 31
  log := RingLog.records_nil _
  count := rfl
  sequence := rfl
  trail := rfl
  commandState := rfl
  commandNumber := rfl
  commandLatency := by simp [transitions]
  listeners := rfl
  room := Nat.zero_le 8
  idle := fun _ => ⟨rfl, rfl⟩

/-- The head of the log moves as that of a ring. -/
theorem toNat_logHead_succ (head : UInt8) :
    ((head + 1) % 32).toNat = (head.toNat + 1) % 32 := by
  have hone : (1 : UInt8).toNat = 1 := rfl
  have hsize : (32 : UInt8).toNat = 32 := rfl
  rw [UInt8.toNat_mod, UInt8.toNat_add, hone, hsize]
  omega

/-- The number of an entry is the count after it. -/
theorem ofNat_count_succ (n : ℕ) : UInt32.ofNat n + 1 = UInt32.ofNat (n + 1) := by
  rw [UInt32.ofNat_add]
  rfl

/-- A transition is a push. -/
theorem ringLog_append (audit : AuditPart) (hhead : audit.logHead.toNat < 32)
    (t : SafeStateTransition) (cmd : SafeStateCommand)
    (hhead' : (audit.append t cmd).logHead.toNat < 32) :
    (audit.append t cmd).ringLog hhead' =
      (audit.ringLog hhead).push { t with sequenceNum := audit.transitionCount + 1 } := by
  have hplace : (audit.append t cmd).logHead.toNat = (audit.logHead.toNat + 1) % 32 :=
    toNat_logHead_succ _
  unfold AuditPart.ringLog RingLog.push
  rw [RingLog.mk.injEq]
  refine ⟨?_, hplace⟩
  apply Vector.ext
  intro i hi
  simp [AuditPart.append, Vector.getElem_setIfInBounds, Vector.getElem_set]

/-- A transition adds its entry. -/
theorem auditInv_append {h : List CallEntry} (inv : AuditInv h arb.audit) {e : CallEntry}
    {t : SafeStateTransition} {cmd : SafeStateCommand} (taken : TakesTransition arb e t cmd)
    (hregistered : registeredBy e = none) :
    AuditInv (h ++ [e]) (arb.audit.append t cmd) := by
  have hconcat := transitions_concat_some (h := h) taken.change
  have hnumber : numbered (transitions h).length t =
      { t with sequenceNum := arb.audit.transitionCount + 1 } := by
    unfold numbered
    rw [inv.count, ofNat_count_succ]
  have hhead : (arb.audit.append t cmd).logHead.toNat < 32 := by
    have hplace : (arb.audit.append t cmd).logHead.toNat = _ := toNat_logHead_succ _
    rw [hplace]
    exact Nat.mod_lt _ (by omega)
  constructor
  case head => exact hhead
  case log =>
    rw [ringLog_append arb.audit inv.head, hconcat, hnumber]
    exact inv.log.push _
  case count =>
    rw [hconcat, List.length_append, List.length_singleton, ← ofNat_count_succ, ← inv.count]
    rfl
  case sequence => exact congrArg (· + 1) inv.sequence
  case trail =>
    rw [hconcat]
    exact isTrail_concat inv.trail taken.fromState taken.toState
  case commandState => exact taken.state
  case commandNumber => exact taken.number
  case commandLatency =>
    intro last hlast
    rw [hconcat, List.getLast?_concat] at hlast
    obtain rfl := Option.some.inj hlast
    exact taken.latency
  case listeners =>
    rw [registered_concat_none hregistered]
    exact inv.listeners
  case room => exact inv.room
  case idle =>
    intro hidle
    exact absurd (hidle.symm.trans taken.initialised) (by simp)

/-- Every call keeps the invariant. -/
theorem auditInv_step {h : List CallEntry} (inv : AuditInv h arb.audit) (call : ArbitratorCall) :
    AuditInv (h ++ [(callMachine matrix).entry arb call])
      ((callMachine matrix).step arb call).2.audit := by
  obtain ⟨haudit, hchange, hregistered, -⟩ | ⟨hidle, haudit, hchange, hregistered, -⟩ |
    ⟨listener, hinit, hroom, haudit, hchange, hregistered, -⟩ | ⟨hregistered, t, cmd, taken⟩ :=
      callStep_cases matrix arb call
  · rw [Machine.entry_after] at haudit
    rw [haudit]
    have hsame := transitions_concat_none (h := h) hchange
    have hlisteners := registered_concat_none (h := h) hregistered
    exact ⟨inv.head, hsame ▸ inv.log, hsame ▸ inv.count, inv.sequence, hsame ▸ inv.trail,
      inv.commandState, inv.commandNumber, hsame ▸ inv.commandLatency, hlisteners ▸ inv.listeners,
      inv.room, fun h => ⟨hsame.trans (inv.idle h).1, hlisteners.trans (inv.idle h).2⟩⟩
  · rw [Machine.entry_after] at haudit
    rw [haudit]
    obtain ⟨hnone, hnobody⟩ := inv.idle hidle
    have hsame := (transitions_concat_none (h := h) hchange).trans hnone
    have hlisteners := (registered_concat_none (h := h) hregistered).trans hnobody
    refine ⟨Nat.zero_lt_succ 31, ?_, ?_, rfl, ?_, rfl, rfl, ?_, hlisteners.symm,
      Nat.zero_le 8, fun _ => ⟨hsame, hlisteners⟩⟩
    · rw [hsame]
      exact RingLog.records_nil _
    · rw [hsame]
      rfl
    · rw [hsame]
      rfl
    · simp [hsame]
  · rw [Machine.entry_after] at haudit
    rw [haudit]
    have hsame := transitions_concat_none (h := h) hchange
    refine ⟨inv.head, hsame ▸ inv.log, hsame ▸ inv.count, inv.sequence, hsame ▸ inv.trail,
      inv.commandState, inv.commandNumber, hsame ▸ inv.commandLatency, ?_, ?_, ?_⟩
    · rw [registered_concat_some hregistered, ← inv.listeners]
      rfl
    · dsimp only
      rw [List.length_append]
      exact hroom
    · intro hidle
      exact absurd (hidle.symm.trans hinit) (by simp)
  · have haudit := taken.audit
    rw [Machine.entry_after] at haudit
    rw [haudit]
    exact auditInv_append inv taken hregistered

/-- Every run keeps the invariant. -/
theorem auditInv_run (ipc : Bool) (calls : List ArbitratorCall) :
    AuditInv ((callMachine matrix).history { ipc } calls)
      ((callMachine matrix).final { ipc } calls).audit := by
  apply (callMachine matrix).run_induction (P := fun h s => AuditInv h s.audit)
  · exact auditInv_start ipc
  · intro h s call inv
    exact auditInv_step matrix inv call

/-! ### Reading the trail -/

/-- The number of entries a drain copies: what the count says, but no more than the log or the
buffer holds. -/
def drained (count bufferSize : ℕ) : ℕ := min (min count 32) bufferSize

/-- A drain reads the ring backwards. -/
theorem drainTransitionLog_eq (hhead : arb.audit.logHead.toNat < 32) (bufferSize : UInt8) :
    arb.drainTransitionLog true bufferSize =
      (UInt8.ofNat (drained arb.transitionCount.toNat bufferSize.toNat),
        (List.range (drained arb.transitionCount.toNat bufferSize.toNat)).map
          (arb.audit.ringLog hhead).newest) := by
  have hcount : (if arb.transitionCount > 32 then 32 else arb.transitionCount.toUInt8).toNat =
      min arb.transitionCount.toNat 32 := by
    have hsize : (32 : UInt32).toNat = 32 := rfl
    split_ifs with hmany
    · have hlt := UInt32.lt_iff_toNat_lt.mp hmany
      rw [hsize] at hlt
      exact (Nat.min_eq_right hlt.le).symm
    · have hle := UInt32.le_iff_toNat_le.mp (UInt32.not_lt.mp hmany)
      rw [hsize] at hle
      rw [UInt32.toNat_toUInt8, Nat.min_eq_left hle]
      exact Nat.mod_eq_of_lt (by omega)
  have hcopy : ∀ count : UInt8,
      (if count < bufferSize then count else bufferSize).toNat =
        min count.toNat bufferSize.toNat := by
    intro count
    split_ifs with hfew
    · exact (Nat.min_eq_left (UInt8.lt_iff_toNat_lt.mp hfew).le).symm
    · exact (Nat.min_eq_right (UInt8.le_iff_toNat_le.mp (UInt8.not_lt.mp hfew))).symm
  unfold SafetyArbitrator.drainTransitionLog
  by_cases hbuffer : bufferSize = 0
  · simp [hbuffer, drained]
  · have hnonzero : ¬ (!true || decide (bufferSize = 0)) = true := by simpa using hbuffer
    rw [if_neg hnonzero]
    dsimp only
    rw [Prod.mk.injEq]
    constructor
    · rw [drained, ← hcount, ← hcopy, UInt8.ofNat_toNat]
    · rw [hcopy, hcount]
      rfl

/-- **The transition log is the history of the state.** In every run, from construction on, the
state seen from outside moves along the transitions of the run, none of them a standstill. They are
counted modulo 2^32. Whatever the size of the buffer, a drain gives the last of them, newest first:
as many as the count says, but no more than the log or the buffer holds. -/
theorem drainTransitionLog_run (ipc : Bool) (calls : List ArbitratorCall) (bufferSize : UInt8) :
    let taken := transitions ((callMachine matrix).history { ipc } calls)
    let arb := (callMachine matrix).final { ipc } calls
    let copied := drained (taken.length % 2 ^ 32) bufferSize.toNat
    IsTrail .kFullOperation taken arb.getCurrentState ∧
      arb.getTransitionCount = UInt32.ofNat taken.length ∧
      arb.drainTransitionLog true bufferSize = (UInt8.ofNat copied, taken.reverse.take copied) := by
  intro taken arb copied
  have inv : AuditInv _ arb.audit := auditInv_run matrix ipc calls
  have hcount : arb.transitionCount.toNat = taken.length % 2 ^ 32 := by
    have htotal : arb.transitionCount = UInt32.ofNat taken.length := inv.count
    rw [htotal, UInt32.toNat_ofNat']
  have hfew : copied ≤ 32 := (min_le_left _ _).trans (min_le_right _ _)
  have htaken : copied ≤ taken.length :=
    (min_le_left _ _).trans ((min_le_left _ _).trans (Nat.mod_le _ _))
  refine ⟨inv.trail, inv.count, ?_⟩
  rw [drainTransitionLog_eq inv.head, hcount, inv.log.newest_map hfew htaken]

/-- **The observers agree** after every run: the last command carries the current state and the
number of transitions, and it is the command of the newest transition. -/
theorem observers_agree (ipc : Bool) (calls : List ArbitratorCall) :
    let taken := transitions ((callMachine matrix).history { ipc } calls)
    let arb := (callMachine matrix).final { ipc } calls
    arb.getLastCommand.state = arb.getCurrentState ∧
      arb.getLastCommand.sequenceNum = arb.getTransitionCount ∧
      ∀ t ∈ taken.getLast?, t.toState = arb.getLastCommand.state ∧
        t.sequenceNum = arb.getLastCommand.sequenceNum ∧
        t.transitionMs = arb.getLastCommand.transitionMs := by
  intro taken arb
  have inv : AuditInv _ arb.audit := auditInv_run matrix ipc calls
  have hnumber : arb.getLastCommand.sequenceNum = arb.getTransitionCount :=
    inv.commandNumber.trans inv.sequence
  refine ⟨inv.commandState, hnumber, ?_⟩
  intro t ht
  refine ⟨(inv.trail.toState_getLast ht).trans inv.commandState.symm, ?_,
    (inv.commandLatency t ht).symm⟩
  rw [hnumber, sequenceNum_getLast ht]
  exact inv.count.symm

/-- **Who is told of a transition.** At every call of every run: if the state changes, each listener
added so far is called once, in the order they were added, with the command `GetLastCommand` then
returns; if it does not change, nobody is called. There are at most eight of them. -/
theorem notified_run (ipc : Bool) (calls : List ArbitratorCall) (call : ArbitratorCall) :
    let h := (callMachine matrix).history { ipc } calls
    let e := (callMachine matrix).entry ((callMachine matrix).final { ipc } calls) call
    (registered h).length ≤ 8 ∧
      e.output.notified =
        if e.after.getCurrentState = e.before.getCurrentState then []
        else (registered h).map fun listener => (listener, e.after.getLastCommand) := by
  intro h e
  have inv : AuditInv h e.before.audit := auditInv_run matrix ipc calls
  have hregistered : e.before.listeners = registered h := inv.listeners
  refine ⟨inv.listeners ▸ inv.room, ?_⟩
  obtain ⟨haudit, -, -, hcalls⟩ | ⟨hidle, haudit, -, -, hcalls⟩ |
    ⟨listener, -, -, haudit, -, -, hcalls⟩ | ⟨-, t, cmd, taken⟩ :=
      callStep_cases matrix e.before call
  · have hsame : e.after.getCurrentState = e.before.getCurrentState :=
      congrArg AuditPart.currentState haudit
    rw [if_pos hsame]
    exact hcalls
  · have hstart : e.before.getCurrentState = .kFullOperation := by
      have htrail := inv.trail
      rw [(inv.idle hidle).1] at htrail
      exact Eq.symm htrail
    have hsame : e.after.getCurrentState = e.before.getCurrentState :=
      (congrArg AuditPart.currentState haudit).trans hstart.symm
    rw [if_pos hsame]
    exact hcalls
  · have hsame : e.after.getCurrentState = e.before.getCurrentState :=
      congrArg AuditPart.currentState haudit
    rw [if_pos hsame]
    exact hcalls
  · have hstate : e.after.getCurrentState = t.toState :=
      congrArg AuditPart.currentState taken.audit
    have hcommand : e.after.getLastCommand = cmd := congrArg AuditPart.lastCommand taken.audit
    have hchanged : t.toState ≠ e.before.getCurrentState := taken.toState
    rw [hstate, if_neg hchanged, hcommand, ← hregistered]
    exact taken.notified

end calls

end SotifPlausibility.Soa
