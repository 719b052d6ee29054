import SotifPlausibility.Soa.SafeStateCommand

/-!
# The safety arbitrator

The periodic task that turns sensor health into safe-state commands for the M7 supervisor.

* `SafetyArbitrator` — its state; the operations follow the source, with the readings of the
  monotonic clock as arguments and the bridge passed in and out.
* `arbitrateWith` — one cycle, over the degradation matrix it uses. `computeRequiredState` is the
  matrix of the gate's vendored copy, `arbitrate` the cycle over it.
* `arbitrateWith_cases` — all a cycle can do: nothing to the command channel, or one transition;
  `executeTransition_spec` — what a transition sends and leaves.
* The validators of the physical envelope; `validateAbs_iff` — what they let through.

Source: `SafetyArbitrator.hpp`, `SafetyArbitrator.cpp` (the copy vendored with the gate).
-/

namespace SotifPlausibility.Soa

open SotifPlausibility.Found

/-! ### Sensor domains -/

/-- The longest silence of a healthy sensor, in ms. -/
def kSensorTimeoutMs : UInt64 := 100

/-- Consecutive faults of a mandatory domain that force a minimal-risk condition. -/
def kFaultThreshold : UInt32 := 3

/-- The deadline of a transition, in ms. -/
def kSafeStateTransitionMs : UInt32 := 50

/-- The valid domains are the numbers below this one. -/
def kNumSensorDomains : UInt8 := 7

/-- A sensor domain. The source casts any byte of an event to its enumeration.
Source: `SafetyArbitrator.hpp`, `SensorDomain`. -/
structure SensorDomain where
  raw : UInt8
  deriving DecidableEq, Repr

namespace SensorDomain

def kLidar : SensorDomain := ⟨0⟩
def kRadar : SensorDomain := ⟨1⟩
def kCamera : SensorDomain := ⟨2⟩
def kGnss : SensorDomain := ⟨3⟩
def kImu : SensorDomain := ⟨4⟩
def kV2X : SensorDomain := ⟨5⟩
def kUss : SensorDomain := ⟨6⟩
def kInvalid : SensorDomain := ⟨7⟩

end SensorDomain

/-- A sensor's health. The source casts any byte of an event to its enumeration.
Source: `SafetyArbitrator.hpp`, `SensorHealth`. -/
structure SensorHealth where
  raw : UInt8
  deriving DecidableEq, Repr

namespace SensorHealth

def kNominal : SensorHealth := ⟨0⟩
def kDegraded : SensorHealth := ⟨1⟩
def kFailed : SensorHealth := ⟨2⟩
def kUnknown : SensorHealth := ⟨3⟩

end SensorHealth

/-- A sensor-health report.
Source: `SafetyArbitrator.hpp`, `SensorFaultEvent`. -/
structure SensorFaultEvent where
  domain : SensorDomain := .kInvalid
  health : SensorHealth := .kUnknown
  timestampMs : UInt32 := 0
  faultCode : UInt32 := 0
  deriving DecidableEq, Repr

/-- What the arbitrator keeps of one domain.
Source: `SafetyArbitrator.hpp`, `DomainState`. -/
structure DomainState where
  domain : SensorDomain := .kInvalid
  health : SensorHealth := .kUnknown
  /-- The clock at the last sign of life, in ms. -/
  lastHeartbeat : UInt64 := 0
  /-- Consecutive faults. -/
  faultCount : UInt32 := 0
  /-- The last fault code reported. -/
  dtcCode : UInt32 := 0
  mandatory : Bool := false
  deriving DecidableEq, Repr

/-- An entry of the transition log.
Source: `SafetyArbitrator.hpp`, `SafeStateTransition`. -/
structure SafeStateTransition where
  fromState : SafeState := .kFullOperation
  toState : SafeState := .kEmergencyStop
  triggerDomain : SensorDomain := .kInvalid
  timestampMs : UInt64 := 0
  transitionMs : UInt32 := 0
  sequenceNum : UInt32 := 0
  deriving DecidableEq, Repr

/-- A registered callback, by its address. -/
abbrev SafeStateListener := ℕ

/-! ### The arbitrator -/

/-- The arbitrator's state. `ipc` says whether the bridge pointer is not null.
Source: `SafetyArbitrator.hpp`, `SafetyArbitrator`. -/
structure SafetyArbitrator where
  ipc : Bool
  domains : Vector DomainState 8 := Vector.replicate 8 {}
  currentState : SafeState := .kFullOperation
  faultBitmask : UInt8 := 0
  activeBitmask : UInt8 := 0xFF
  sequenceNum : UInt32 := 0
  transitionCount : UInt32 := 0
  mandatoryMask : UInt8 := 0
  lastCommand : SafeStateCommand := {}
  transitionLog : Vector SafeStateTransition 32 := Vector.replicate 32 {}
  logHead : UInt8 := 0
  listeners : List SafeStateListener := []
  initialised : Bool := false
  deriving DecidableEq

/-- The clock readings of one cycle, in the order they are taken. -/
structure ClockReadings where
  /-- `ScanTimeouts`. -/
  scan : UInt64
  /-- `ExecuteTransition`, on entry. -/
  start : UInt64
  /-- `ExecuteTransition`, after the send. -/
  finish : UInt64
  /-- `LogTransition`. -/
  log : UInt64
  deriving DecidableEq, Repr

/-- A call of `IpcBridge::Send` and its result. -/
structure IpcSend where
  event : SoaEvent
  result : VoidResult
  deriving DecidableEq, Repr

/-- What a cycle leaves: its result, the arbitrator, the bridge, the send it made if it made one,
and the callbacks it invoked. -/
structure ArbitrateOutcome where
  result : VoidResult
  arbitrator : SafetyArbitrator
  bridge : IpcBridge
  sent : Option IpcSend := none
  notified : List (SafeStateListener × SafeStateCommand) := []

/-- Bit `i` of a mask. -/
def testMask (mask : UInt8) (i : ℕ) : Bool := (mask >>> UInt8.ofNat i) &&& 0x01 ≠ 0

namespace SafetyArbitrator

variable (arb : SafetyArbitrator)

/-- Sets every domain to unknown and the counters to 0.
Source: `SafetyArbitrator.cpp`, `SafetyArbitrator::Init`. -/
def init (mandatoryDomains : UInt8) (nowMs : UInt64) : VoidResult × SafetyArbitrator :=
  if arb.initialised then (.err .kAlreadyRegistered, arb)
  else if !arb.ipc then (.err .kNullPointer, arb)
  else
    (.ok,
      { arb with
        mandatoryMask := mandatoryDomains
        listeners := []
        logHead := 0
        sequenceNum := 0
        transitionCount := 0
        currentState := .kFullOperation
        faultBitmask := 0
        activeBitmask := 0xFF
        domains := Vector.ofFn fun i : Fin 8 =>
          { domain := ⟨UInt8.ofNat i⟩
            health := .kUnknown
            lastHeartbeat := nowMs
            faultCount := 0
            dtcCode := 0
            mandatory := testMask mandatoryDomains i }
        lastCommand := {}
        initialised := true })

/-- Adds a callback.
Source: `SafetyArbitrator.cpp`, `SafetyArbitrator::RegisterListener`. -/
def registerListener (listener : Option SafeStateListener) : VoidResult × SafetyArbitrator :=
  if !arb.initialised then (.err .kNotInitialized, arb)
  else
    match listener with
    | none => (.err .kNullPointer, arb)
    | some listener =>
        if arb.listeners.length ≥ 8 then (.err .kRegistryFull, arb)
        else (.ok, { arb with listeners := arb.listeners ++ [listener] })

/-- Records a health report. The clock is read for a nominal one.
Source: `SafetyArbitrator.cpp`, `SafetyArbitrator::IngestFault`. -/
def ingestFault (fault : SensorFaultEvent) (nowMs : UInt64) : VoidResult × SafetyArbitrator :=
  if !arb.initialised then (.err .kNotInitialized, arb)
  else
    let domIdx := fault.domain.raw
    if h : domIdx < kNumSensorDomains then
      let i : Fin 8 := ⟨domIdx.toNat, lt_trans (UInt8.lt_iff_toNat_lt.mp h) (by decide)⟩
      let dom := { arb.domains[i] with health := fault.health, dtcCode := fault.faultCode }
      let dom :=
        if fault.health = .kNominal then { dom with faultCount := 0, lastHeartbeat := nowMs }
        else { dom with faultCount := dom.faultCount + 1 }
      (.ok, { arb with domains := arb.domains.set i dom })
    else (.err .kInvalidArgument, arb)

/-- Records a sign of life.
Source: `SafetyArbitrator.cpp`, `SafetyArbitrator::RecordHeartbeat`. -/
def recordHeartbeat (domain : SensorDomain) (nowMs : UInt64) : VoidResult × SafetyArbitrator :=
  if !arb.initialised then (.err .kNotInitialized, arb)
  else
    let domIdx := domain.raw
    if h : domIdx < kNumSensorDomains then
      let i : Fin 8 := ⟨domIdx.toNat, lt_trans (UInt8.lt_iff_toNat_lt.mp h) (by decide)⟩
      let dom := arb.domains[i]
      let health := if dom.faultCount = 0 then .kNominal else dom.health
      (.ok, { arb with domains := arb.domains.set i { dom with lastHeartbeat := nowMs, health } })
    else (.err .kInvalidArgument, arb)

/-- Decodes a health report from an event and records it.
Source: `SafetyArbitrator.cpp`, `SafetyArbitrator::IngestSoaEvent`. -/
def ingestSoaEvent (event : SoaEvent) (nowMs : UInt64) : VoidResult × SafetyArbitrator :=
  if !arb.initialised then (.err .kNotInitialized, arb)
  else if event.payloadLen < 12 then (.err .kInvalidArgument, arb)
  else
    arb.ingestFault
      { domain := ⟨event.payload[0]⟩
        health := ⟨event.payload[1]⟩
        faultCode := Bytes.unpackU32 (event.payload.load 4 4)
        timestampMs := Bytes.unpackU32 (event.payload.load 8 4) }
      nowMs

/-- Source: `SafetyArbitrator.cpp`, `SafetyArbitrator::GetCurrentState`. -/
def getCurrentState : SafeState := arb.currentState

/-- Source: `SafetyArbitrator.cpp`, `SafetyArbitrator::GetDomainHealth`. -/
def getDomainHealth (domain : SensorDomain) : SensorHealth :=
  match arb.domains[domain.raw.toNat]? with
  | none => .kUnknown
  | some dom => dom.health

/-! ### One cycle -/

/-- Promotes a domain that has been silent too long to failed.
Source: `SafetyArbitrator.cpp`, `SafetyArbitrator::ScanTimeouts`, loop body. -/
def scanDomain (nowMs : UInt64) (dom : DomainState) : DomainState :=
  if nowMs < dom.lastHeartbeat then dom
  else if nowMs - dom.lastHeartbeat > kSensorTimeoutMs then
    if dom.health ≠ .kFailed then { dom with health := .kFailed, faultCount := dom.faultCount + 1 }
    else dom
  else dom

/-- Source: `SafetyArbitrator.cpp`, `SafetyArbitrator::ScanTimeouts`. -/
def scanTimeouts (nowMs : UInt64) : SafetyArbitrator :=
  { arb with domains := arb.domains.map (scanDomain nowMs) }

/-- The mask of the domains with a given health. -/
def healthMask (health : SensorHealth) : UInt8 :=
  (List.finRange 8).foldl
    (fun mask (i : Fin 8) =>
      if arb.domains[i].health = health then mask ||| (1 <<< UInt8.ofNat i) else mask)
    0

/-- Source: `SafetyArbitrator.cpp`, `SafetyArbitrator::UpdateBitmasks`. -/
def updateBitmasks : SafetyArbitrator :=
  { arb with
    faultBitmask := arb.healthMask .kFailed
    activeBitmask := arb.healthMask .kNominal }

/-- Whether the fault mask has a domain. -/
def isFailed (d : SensorDomain) : Bool := arb.faultBitmask &&& (1 <<< d.raw) ≠ 0

/-- The degradation matrix, as an ordered chain of tests: the first that holds decides.
Source: `SafetyArbitrator.cpp` (the copy vendored with the gate),
`SafetyArbitrator::ComputeRequiredState`. -/
def computeRequiredState : SafeState :=
  let lidarFailed := arb.isFailed .kLidar
  let radarFailed := arb.isFailed .kRadar
  let cameraFailed := arb.isFailed .kCamera
  let gnssFailed := arb.isFailed .kGnss
  let imuFailed := arb.isFailed .kImu
  if lidarFailed && radarFailed then .kMinimalRiskCondition
  else if arb.faultBitmask &&& arb.mandatoryMask ≠ 0 ∧
      (List.finRange 8).any (fun i : Fin 8 =>
        testMask arb.mandatoryMask i && arb.domains[i].faultCount ≥ kFaultThreshold) then
    .kMinimalRiskCondition
  else if lidarFailed && !radarFailed then .kRadarCameraFallback
  else if radarFailed && !lidarFailed then .kLidarCameraFallback
  else if cameraFailed then .kLidarRadarFallback
  else if gnssFailed && !imuFailed then .kDeadReckoningMode
  else if imuFailed then .kReducedDynamics
  else .kFullOperation

/-- The speed and deceleration caps of a state.
Source: `SafetyArbitrator.cpp`, `SafetyArbitrator::ExecuteTransition`, switch. -/
def caps : SafeState → Float32 × Float32
  | .kFullOperation => (130.0, kMaxLongitudinalDecelMps2)
  | .kRadarCameraFallback => (100.0, kMaxLongitudinalDecelMps2)
  | .kLidarCameraFallback => (100.0, kMaxLongitudinalDecelMps2)
  | .kLidarRadarFallback => (kDegradedMaxSpeedKph, kMaxLongitudinalDecelMps2)
  | .kDeadReckoningMode => (kDegradedMaxSpeedKph, kMaxLongitudinalDecelMps2 * 0.7)
  | .kReducedDynamics => (kDegradedMaxSpeedKph, kMaxLongitudinalDecelMps2 * 0.5)
  | .kMinimalRiskCondition => (kMrcMaxSpeedKph, kMaxLongitudinalDecelMps2 * 0.3)
  | .kEmergencyStop => (0.0, kMaxLongitudinalDecelMps2)

/-- The command of a transition. Its number is 1-based: "0 means no command issued".
Source: `SafetyArbitrator.cpp`, `SafetyArbitrator::ExecuteTransition`. -/
def transitionCommand (target : SafeState) : SafeStateCommand where
  magic := kArbitratorMagic
  state := target
  activeDomains := arb.activeBitmask
  faultBitmask := arb.faultBitmask
  reserved := 0
  maxSpeedKph := (caps target).1
  maxDecelMps2 := (caps target).2
  sequenceNum := arb.sequenceNum + 1

/-- Sends a command. Its number is also the event's session.
Source: `SafetyArbitrator.cpp`, `SafetyArbitrator::SendCommandToM7`. -/
def sendCommandToM7 (bridge : IpcBridge) (cmd : SafeStateCommand) :
    VoidResult × IpcBridge × Option IpcSend :=
  if !arb.ipc then (.err .kNullPointer, bridge, none)
  else
    let event := cmd.event cmd.sequenceNum
    let (result, bridge) := bridge.send event
    (result, bridge, some { event, result })

/-- The lowest domain in the fault mask, for the log. -/
def triggerDomain : SensorDomain :=
  match (List.range 8).find? (testMask arb.faultBitmask) with
  | some i => ⟨UInt8.ofNat i⟩
  | none => .kInvalid

/-- Appends to the circular log.
Source: `SafetyArbitrator.cpp`, `SafetyArbitrator::LogTransition`. -/
def logTransition (fromState toState : SafeState) (trigger : SensorDomain) (latencyMs : UInt32)
    (nowMs : UInt64) : SafetyArbitrator :=
  { arb with
    transitionLog := arb.transitionLog.setIfInBounds arb.logHead.toNat
      { fromState, toState, triggerDomain := trigger, timestampMs := nowMs
        transitionMs := latencyMs, sequenceNum := arb.transitionCount }
    logHead := (arb.logHead + 1) % 32 }

/-- Sends the command of a transition, commits the new state whether or not the send succeeded, and
logs and announces it.
Source: `SafetyArbitrator.cpp`, `SafetyArbitrator::ExecuteTransition`. -/
def executeTransition (bridge : IpcBridge) (target : SafeState) (clock : ClockReadings) :
    ArbitrateOutcome :=
  let cmd := arb.transitionCommand target
  let trigger := arb.triggerDomain
  let (sendResult, bridge, sent) := arb.sendCommandToM7 bridge cmd
  let latencyMs := if clock.finish ≥ clock.start then (clock.finish - clock.start).toUInt32 else 0
  let cmd := { cmd with transitionMs := latencyMs }
  let arb' : SafetyArbitrator :=
    { arb with
      sequenceNum := arb.sequenceNum + 1
      currentState := target
      lastCommand := cmd
      transitionCount := arb.transitionCount + 1 }
  { result :=
      if latencyMs > kSafeStateTransitionMs then .err .kTimeout
      else if sendResult ≠ .ok then .err .kE2eViolation
      else .ok
    arbitrator := arb'.logTransition arb.currentState target trigger latencyMs clock.log
    bridge
    sent
    notified := arb.listeners.map fun listener => (listener, cmd) }

/-- One cycle over a degradation matrix.
Source: `SafetyArbitrator.cpp`, `SafetyArbitrator::Arbitrate`. -/
def arbitrateWith (matrix : SafetyArbitrator → SafeState) (bridge : IpcBridge)
    (clock : ClockReadings) : ArbitrateOutcome :=
  if !arb.initialised then { result := .err .kNotInitialized, arbitrator := arb, bridge }
  else
    let arb := (arb.scanTimeouts clock.scan).updateBitmasks
    let required := matrix arb
    if required = arb.currentState then { result := .ok, arbitrator := arb, bridge }
    else if arb.currentState = .kEmergencyStop then { result := .ok, arbitrator := arb, bridge }
    else arb.executeTransition bridge required clock

/-- Source: `SafetyArbitrator.cpp` (the copy vendored with the gate),
`SafetyArbitrator::Arbitrate`. -/
def arbitrate (bridge : IpcBridge) (clock : ClockReadings) : ArbitrateOutcome :=
  arb.arbitrateWith computeRequiredState bridge clock

/-! ### What a cycle does -/

/-- The arbitrator as the matrix sees it in a cycle. -/
def scanned (scan : UInt64) : SafetyArbitrator := (arb.scanTimeouts scan).updateBitmasks

/-- No fault pattern asks for an emergency stop. -/
theorem computeRequiredState_ne_emergencyStop : arb.computeRequiredState ≠ .kEmergencyStop := by
  unfold computeRequiredState
  simp only
  split_ifs <;> decide

variable {arb} {bridge : IpcBridge} {clock : ClockReadings}

/-- A health report moves no counter. -/
theorem ingestFault_frame (fault : SensorFaultEvent) (nowMs : UInt64) :
    (arb.ingestFault fault nowMs).2.ipc = arb.ipc ∧
      (arb.ingestFault fault nowMs).2.initialised = arb.initialised ∧
      (arb.ingestFault fault nowMs).2.sequenceNum = arb.sequenceNum := by
  unfold ingestFault
  dsimp only
  split_ifs <;> exact ⟨rfl, rfl, rfl⟩

/-- A sign of life moves no counter. -/
theorem recordHeartbeat_frame (domain : SensorDomain) (nowMs : UInt64) :
    (arb.recordHeartbeat domain nowMs).2.ipc = arb.ipc ∧
      (arb.recordHeartbeat domain nowMs).2.initialised = arb.initialised ∧
      (arb.recordHeartbeat domain nowMs).2.sequenceNum = arb.sequenceNum := by
  unfold recordHeartbeat
  dsimp only
  split_ifs <;> exact ⟨rfl, rfl, rfl⟩

/-- What a transition sends and leaves, when the bridge pointer is set. -/
theorem executeTransition_spec {target : SafeState} (hipc : arb.ipc = true) :
    let event := (arb.transitionCommand target).event (arb.sequenceNum + 1)
    let out := arb.executeTransition bridge target clock
    out.sent = some { event, result := (bridge.send event).1 } ∧
      out.bridge = (bridge.send event).2 ∧
      out.arbitrator.sequenceNum = arb.sequenceNum + 1 ∧
      out.arbitrator.currentState = target ∧
      out.arbitrator.ipc = true ∧
      out.arbitrator.initialised = arb.initialised := by
  simp [executeTransition, sendCommandToM7, hipc, transitionCommand, logTransition]

/-- **The two outcomes of a cycle**: it leaves the command channel alone, or it takes one transition
to a state that differs from the current one. -/
theorem arbitrateWith_cases {matrix : SafetyArbitrator → SafeState} (hipc : arb.ipc = true)
    (hinit : arb.initialised = true) :
    let out := arb.arbitrateWith matrix bridge clock
    (out.sent = none ∧ out.bridge = bridge ∧ out.arbitrator.sequenceNum = arb.sequenceNum ∧
        out.arbitrator.currentState = arb.currentState ∧ out.arbitrator.ipc = true ∧
        out.arbitrator.initialised = true) ∨
      ∃ target, target = matrix (arb.scanned clock.scan) ∧ target ≠ arb.currentState ∧
        arb.currentState ≠ .kEmergencyStop ∧
        out = (arb.scanned clock.scan).executeTransition bridge target clock := by
  have hcurrent : (arb.scanned clock.scan).currentState = arb.currentState := rfl
  intro out
  have hout : out = arb.arbitrateWith matrix bridge clock := rfl
  unfold arbitrateWith at hout
  rw [hinit] at hout
  simp only [Bool.not_true, Bool.false_eq_true, if_false] at hout
  split_ifs at hout with hsame hstop
  · rw [hout]
    exact Or.inl ⟨rfl, rfl, rfl, rfl, hipc, hinit⟩
  · rw [hout]
    exact Or.inl ⟨rfl, rfl, rfl, rfl, hipc, hinit⟩
  · exact Or.inr ⟨_, rfl, hsame, hstop, hout⟩

end SafetyArbitrator

/-! ### Physical envelope validators -/

section validators

/-- The test the three one-argument validators share: the absolute value, taken by a comparison,
does not exceed a bound. -/
def validateAbs (bound v : Float32) : VoidResult :=
  let absV := if v < 0.0 then -v else v
  if absV > bound then .err .kInvalidArgument else .ok

/-- A finite value passes exactly when its absolute value is within the bound. -/
theorem validateAbs_iff {bound v : Float32} (hbound : bound.isNaN = false)
    (hv : v.isFinite = true) : validateAbs bound v = .ok ↔ v.abs ≤ bound := by
  have hnan := Binary32.isNaN_of_isFinite32 hv
  have habs : (if v < 0.0 then -v else v).isNaN = false := by
    split_ifs
    · exact Binary32.isNaN_neg32 hnan
    · exact hnan
  rw [Binary32.abs_le_iff hnan, ← Binary32.not_lt hbound habs]
  unfold validateAbs
  by_cases h : bound < if v < 0.0 then -v else v
  · simp [h]
  · simp [h]

/-- **A NaN passes every bound.** -/
theorem validateAbs_of_isNaN {bound v : Float32} (hv : v.isNaN = true) :
    validateAbs bound v = .ok := by
  unfold validateAbs
  simp only
  rw [if_neg (Binary32.not_lt_of_isNaN (Or.inr ?_))]
  rw [if_neg (Binary32.not_lt_of_isNaN (Or.inl hv))]
  exact hv

/-- Source: `SafetyArbitrator.cpp`, `SafetyArbitrator::ValidateSteeringAngle`. -/
def validateSteeringAngle (angleDeg : Float32) : VoidResult :=
  validateAbs kMaxSteeringAngleDeg angleDeg

/-- Source: `SafetyArbitrator.cpp`, `SafetyArbitrator::ValidateDeceleration`. -/
def validateDeceleration (decelMps2 : Float32) : VoidResult :=
  validateAbs kMaxLongitudinalDecelMps2 decelMps2

/-- Source: `SafetyArbitrator.cpp`, `SafetyArbitrator::ValidateLateralAccel`. -/
def validateLateralAccel (accelMps2 : Float32) : VoidResult :=
  validateAbs kMaxLateralAccelMps2 accelMps2

end validators

end SotifPlausibility.Soa
