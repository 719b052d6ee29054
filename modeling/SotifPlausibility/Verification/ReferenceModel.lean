import SotifPlausibility.Found.BitMask
import SotifPlausibility.Soa.TransitionLog

/-!
# The arbitrator and its reference model

The verification harness compares the arbitrator with a reference model of the degradation matrix,
on 32 fresh instances of one cycle each. Here the two are compared over whole runs.

* `computeRequiredState` — the matrix of the copy the harness drives, which escalates to the most
  severe condition that applies.
* `referenceModel` — the harness's model.
* `isFailed_updateBitmasks_iff` — the bits of the fault mask are the domains that are failed, so a
  cycle decides on the health of the domains alone.
* `Follows` — the state is that of a model of the matrix, up to the loss of a mandatory domain.
* `follows_arbitrate` — a cycle over either matrix leaves such a state.
* `reference_model_of_run` — after each cycle of each run of the verified copy the state is that of
  the reference model.

Source: `verify_safety_arbitrator.cpp`; `SafetyArbitrator.cpp` (the copy vendored with the harness).
-/

namespace SotifPlausibility.Verification

open SotifPlausibility.Found SotifPlausibility.Soa

/-! ### The matrix of the verified copy -/

/-- Raises a state to a more severe one.
Source: `SafetyArbitrator.cpp` (the copy vendored with the harness),
`SafetyArbitrator::ComputeRequiredState`, lambda `Escalate`. -/
def escalate (result candidate : SafeState) : SafeState :=
  if candidate.toUInt8 > result.toUInt8 then candidate else result

/-- The conditions of the matrix, each raising the result in turn.
Source: `SafetyArbitrator.cpp` (the copy vendored with the harness),
`SafetyArbitrator::ComputeRequiredState`, from `SafeState result` on. -/
def degradationMatrix (lidarFailed radarFailed cameraFailed gnssFailed imuFailed : Bool) :
    SafeState :=
  let result := SafeState.kFullOperation
  let result := if lidarFailed && radarFailed then escalate result .kMinimalRiskCondition else result
  let result := if lidarFailed && !radarFailed then escalate result .kRadarCameraFallback else result
  let result := if radarFailed && !lidarFailed then escalate result .kLidarCameraFallback else result
  let result := if cameraFailed then escalate result .kLidarRadarFallback else result
  let result := if gnssFailed && !imuFailed then escalate result .kDeadReckoningMode else result
  if imuFailed then escalate result .kReducedDynamics else result

/-- The state a cycle asks for: a minimal-risk condition for a lost mandatory domain, and else the
most severe condition of the matrix.
Source: `SafetyArbitrator.cpp` (the copy vendored with the harness),
`SafetyArbitrator::ComputeRequiredState`. -/
def computeRequiredState (arb : SafetyArbitrator) : SafeState :=
  if arb.faultBitmask &&& arb.mandatoryMask ≠ 0 ∧
      (List.finRange 8).any (fun i : Fin 8 =>
        testMask arb.mandatoryMask i && (arb.domains.get i).faultCount ≥ kFaultThreshold) then
    .kMinimalRiskCondition
  else
    degradationMatrix (arb.isFailed .kLidar) (arb.isFailed .kRadar) (arb.isFailed .kCamera)
      (arb.isFailed .kGnss) (arb.isFailed .kImu)

/-! ### The reference model -/

/-- Source: `verify_safety_arbitrator.cpp`, `SeverityOf`. -/
def severityOf (s : SafeState) : ℕ := s.toUInt8.toNat

/-- Source: `verify_safety_arbitrator.cpp`, `ReferenceModel`. -/
def referenceModel (lidar radar camera gnss imu : Bool) : SafeState :=
  let escalate (result candidate : SafeState) : SafeState :=
    if severityOf candidate > severityOf result then candidate else result
  let result := SafeState.kFullOperation
  let result := if lidar && radar then escalate result .kMinimalRiskCondition else result
  let result := if lidar && !radar then escalate result .kRadarCameraFallback else result
  let result := if radar && !lidar then escalate result .kLidarCameraFallback else result
  let result := if camera then escalate result .kLidarRadarFallback else result
  let result := if gnss && !imu then escalate result .kDeadReckoningMode else result
  if imu then escalate result .kReducedDynamics else result

/-- The matrix of the code and the model of the harness are the same function of five flags. -/
theorem degradationMatrix_eq_referenceModel (lidar radar camera gnss imu : Bool) :
    degradationMatrix lidar radar camera gnss imu = referenceModel lidar radar camera gnss imu := by
  revert lidar radar camera gnss imu
  decide

/-- No combination of failed domains asks for an emergency stop. -/
theorem referenceModel_ne_emergencyStop (lidar radar camera gnss imu : Bool) :
    referenceModel lidar radar camera gnss imu ≠ .kEmergencyStop := by
  revert lidar radar camera gnss imu
  decide

/-! ### What a cycle sees of the domains -/

section scanned

variable (arb : SafetyArbitrator)

/-- The mask of the domains with a given health has exactly their bits. -/
theorem has_healthMask (health : SensorHealth) (i : Fin 8) :
    BitMask.has (arb.healthMask health) i = true ↔ (arb.domains.get i).health = health := by
  have hplace : ∀ j : Fin 8, (UInt8.ofNat j).toNat = j := by
    intro j
    rw [UInt8.toNat_ofNat']
    exact Nat.mod_eq_of_lt (by omega)
  unfold SafetyArbitrator.healthMask
  rw [BitMask.has_foldl (fun j : Fin 8 => arb.domains[j].health = health)]
  · constructor
    · rintro (h | ⟨j, -, hj, hji⟩)
      · simp at h
      · rw [hplace] at hji
        rw [← Fin.ext hji]
        exact hj
    · intro h
      exact Or.inr ⟨i, List.mem_finRange i, h, hplace i⟩
  · intro j _
    rw [hplace]
    exact j.isLt

/-- Bit `i` of a mask, as the code tests it. -/
theorem testMask_iff (mask : UInt8) (i : Fin 8) :
    testMask mask i = true ↔ BitMask.has mask i = true := by
  rw [← BitMask.shiftRight_and_one_ne_zero i.isLt]
  simp [testMask]

/-- **A bit of the fault mask is set exactly for a failed domain**, once the masks are computed. -/
theorem isFailed_updateBitmasks_iff (d : SensorDomain) (hd : d.raw.toNat < 8) :
    arb.updateBitmasks.isFailed d = true ↔ arb.getDomainHealth d = .kFailed := by
  have hhealth : arb.getDomainHealth d = arb.domains[d.raw.toNat].health := by
    unfold SafetyArbitrator.getDomainHealth
    rw [Vector.getElem?_eq_getElem hd]
  have hbit : arb.updateBitmasks.isFailed d = true ↔
      arb.updateBitmasks.faultBitmask &&& (1 <<< d.raw) ≠ 0 := by
    simp [SafetyArbitrator.isFailed]
  rw [hbit, BitMask.and_one_shiftLeft_ne_zero hd, hhealth]
  exact has_healthMask arb .kFailed ⟨d.raw.toNat, hd⟩

/-- A mandatory domain is failed, and a mandatory domain has reached the fault threshold. -/
def MandatoryLost (mandatoryDomains : UInt8) (arb : SafetyArbitrator) : Prop :=
  (∃ i : Fin 8, testMask mandatoryDomains i = true ∧ (arb.domains.get i).health = .kFailed) ∧
    ∃ i : Fin 8, testMask mandatoryDomains i = true ∧ 3 ≤ (arb.domains.get i).faultCount

/-- The fault mask meets the mandatory mask when a mandatory domain is failed. -/
theorem mandatoryFaults_ne_zero_iff :
    arb.updateBitmasks.faultBitmask &&& arb.updateBitmasks.mandatoryMask ≠ 0 ↔
      ∃ i : Fin 8, testMask arb.mandatoryMask i = true ∧ (arb.domains.get i).health = .kFailed := by
  rw [BitMask.and_ne_zero_iff]
  constructor
  · rintro ⟨i, hi, hfault, hmask⟩
    exact ⟨⟨i, hi⟩, (testMask_iff _ ⟨i, hi⟩).mpr hmask, (has_healthMask arb _ ⟨i, hi⟩).mp hfault⟩
  · rintro ⟨i, hmask, hfault⟩
    exact ⟨i, i.isLt, (has_healthMask arb _ i).mpr hfault, (testMask_iff _ i).mp hmask⟩

/-- The fault mask meets the mandatory mask, and a mandatory domain has reached the threshold, as
the code tests it. -/
def MandatoryTest : Prop :=
  arb.faultBitmask &&& arb.mandatoryMask ≠ 0 ∧
    (List.finRange 8).any (fun i : Fin 8 =>
      testMask arb.mandatoryMask i && (arb.domains.get i).faultCount ≥ kFaultThreshold) = true

instance : Decidable (MandatoryTest arb) :=
  inferInstanceAs (Decidable (_ ∧ _))

/-- On the masks of a cycle this is the loss of a mandatory domain. -/
theorem mandatoryTest_updateBitmasks :
    MandatoryTest arb.updateBitmasks ↔ MandatoryLost arb.mandatoryMask arb := by
  have hcount : (List.finRange 8).any (fun i : Fin 8 =>
      testMask arb.updateBitmasks.mandatoryMask i &&
        (arb.updateBitmasks.domains.get i).faultCount ≥ kFaultThreshold) = true ↔
        ∃ i : Fin 8, testMask arb.mandatoryMask i = true ∧ 3 ≤ (arb.domains.get i).faultCount := by
    simp [SafetyArbitrator.updateBitmasks, kFaultThreshold]
  exact and_congr (mandatoryFaults_ne_zero_iff arb) hcount

/-- The matrix of the verified copy, by its two branches. -/
theorem computeRequiredState_verified :
    computeRequiredState arb =
      if MandatoryTest arb then .kMinimalRiskCondition
      else
        referenceModel (arb.isFailed .kLidar) (arb.isFailed .kRadar) (arb.isFailed .kCamera)
          (arb.isFailed .kGnss) (arb.isFailed .kImu) := by
  rw [← degradationMatrix_eq_referenceModel]
  rfl

/-- A cycle never asks for an emergency stop. -/
theorem computeRequiredState_ne_emergencyStop : computeRequiredState arb ≠ .kEmergencyStop := by
  unfold computeRequiredState
  split_ifs
  · decide
  · rw [degradationMatrix_eq_referenceModel]
    exact referenceModel_ne_emergencyStop _ _ _ _ _

end scanned

/-- A model of the matrix, applied to the domains that are failed. -/
def modelState (model : Bool → Bool → Bool → Bool → Bool → SafeState) (arb : SafetyArbitrator) :
    SafeState :=
  model (arb.getDomainHealth .kLidar = .kFailed) (arb.getDomainHealth .kRadar = .kFailed)
    (arb.getDomainHealth .kCamera = .kFailed) (arb.getDomainHealth .kGnss = .kFailed)
    (arb.getDomainHealth .kImu = .kFailed)

/-- The state is a minimal-risk condition for a lost mandatory domain, and else that of a model of
the matrix. -/
def Follows (model : Bool → Bool → Bool → Bool → Bool → SafeState) (mandatoryDomains : UInt8)
    (arb : SafetyArbitrator) : Prop :=
  (MandatoryLost mandatoryDomains arb → arb.getCurrentState = .kMinimalRiskCondition) ∧
    (¬ MandatoryLost mandatoryDomains arb → arb.getCurrentState = modelState model arb)

/-! ### Runs of the arbitrator -/

section runs

variable {arb : SafetyArbitrator} {mandatoryDomains : UInt8}

/-- What every operation after `Init` keeps. -/
structure ArbitratorInv (mandatoryDomains : UInt8) (arb : SafetyArbitrator) : Prop where
  /-- `Init` has succeeded. -/
  initialised : arb.initialised = true
  /-- The mandatory domains are those `Init` was given. -/
  mandatoryMask : arb.mandatoryMask = mandatoryDomains
  /-- The latch of the emergency stop is never entered. -/
  currentState : arb.currentState ≠ .kEmergencyStop

/-- `Init` establishes it. -/
theorem arbitratorInv_init {nowMs : UInt64} (h : (arb.init mandatoryDomains nowMs).1 = .ok) :
    ArbitratorInv mandatoryDomains (arb.init mandatoryDomains nowMs).2 := by
  unfold SafetyArbitrator.init at h ⊢
  split_ifs at h ⊢
  exact ⟨rfl, rfl, by simp⟩

/-- A report keeps it. -/
theorem arbitratorInv_ingestFault (inv : ArbitratorInv mandatoryDomains arb)
    (fault : SensorFaultEvent) (nowMs : UInt64) :
    ArbitratorInv mandatoryDomains (arb.ingestFault fault nowMs).2 := by
  unfold SafetyArbitrator.ingestFault
  dsimp only
  split_ifs <;> exact ⟨inv.initialised, inv.mandatoryMask, inv.currentState⟩

/-- An event keeps it. -/
theorem arbitratorInv_ingestSoaEvent (inv : ArbitratorInv mandatoryDomains arb)
    (event : SoaEvent) (nowMs : UInt64) :
    ArbitratorInv mandatoryDomains (arb.ingestSoaEvent event nowMs).2 := by
  unfold SafetyArbitrator.ingestSoaEvent
  split_ifs
  · exact inv
  · exact inv
  · exact arbitratorInv_ingestFault inv _ nowMs

/-- A heartbeat keeps it. -/
theorem arbitratorInv_recordHeartbeat (inv : ArbitratorInv mandatoryDomains arb)
    (domain : SensorDomain) (nowMs : UInt64) :
    ArbitratorInv mandatoryDomains (arb.recordHeartbeat domain nowMs).2 := by
  unfold SafetyArbitrator.recordHeartbeat
  dsimp only
  split_ifs <;> exact ⟨inv.initialised, inv.mandatoryMask, inv.currentState⟩

variable {matrix : SafetyArbitrator → SafeState}

/-- **What a cycle leaves**, for any matrix: the state the matrix asks for, the domains and the
masks it looked at, and the mandatory mask. The emergency-stop latch does not get in the way, since
it is never entered. -/
theorem arbitrateWith_spec (matrix : SafetyArbitrator → SafeState)
    (inv : ArbitratorInv mandatoryDomains arb) (bridge : IpcBridge) (clock : ClockReadings) :
    let seen := arb.scanned clock.scan
    let after := (arb.arbitrateWith matrix bridge clock).arbitrator
    after.currentState = matrix seen ∧ after.domains = seen.domains ∧
      after.faultBitmask = seen.faultBitmask ∧ after.activeBitmask = seen.activeBitmask ∧
      after.mandatoryMask = mandatoryDomains ∧ after.initialised = true := by
  intro seen after
  have hafter : after = (arb.arbitrateWith matrix bridge clock).arbitrator := rfl
  have hcurrent : seen.currentState = arb.currentState := rfl
  have hready : ¬ (!arb.initialised) = true := by simp [inv.initialised]
  unfold SafetyArbitrator.arbitrateWith at hafter
  rw [if_neg hready] at hafter
  dsimp only at hafter
  split_ifs at hafter with hsame hstop
  · rw [hafter]
    exact ⟨hsame.symm, rfl, rfl, rfl, inv.mandatoryMask, inv.initialised⟩
  · exact absurd (hcurrent.symm.trans hstop) inv.currentState
  · rw [hafter]
    exact ⟨rfl, rfl, rfl, rfl, inv.mandatoryMask, inv.initialised⟩

/-- **A cycle follows a model** of its matrix, whatever the state was before. -/
theorem follows_arbitrate {model : Bool → Bool → Bool → Bool → Bool → SafeState}
    (hmatrix : ∀ arb, matrix arb =
      if MandatoryTest arb then .kMinimalRiskCondition
      else
        model (arb.isFailed .kLidar) (arb.isFailed .kRadar) (arb.isFailed .kCamera)
          (arb.isFailed .kGnss) (arb.isFailed .kImu))
    (inv : ArbitratorInv mandatoryDomains arb) (bridge : IpcBridge) (clock : ClockReadings) :
    Follows model mandatoryDomains (arb.arbitrateWith matrix bridge clock).arbitrator := by
  obtain ⟨hstate, hdomains, -, -, -, -⟩ := arbitrateWith_spec matrix inv bridge clock
  have hmask : (arb.scanTimeouts clock.scan).mandatoryMask = mandatoryDomains := inv.mandatoryMask
  have hscanned : arb.scanned clock.scan = (arb.scanTimeouts clock.scan).updateBitmasks := rfl
  have hdomains' : (arb.scanned clock.scan).domains = (arb.scanTimeouts clock.scan).domains := rfl
  rw [hdomains'] at hdomains
  rw [hscanned] at hstate
  generalize arb.scanTimeouts clock.scan = seen at hmask hdomains hstate
  generalize (arb.arbitrateWith matrix bridge clock).arbitrator = after at hdomains hstate ⊢
  have hlost : MandatoryTest seen.updateBitmasks ↔ MandatoryLost mandatoryDomains after := by
    rw [mandatoryTest_updateBitmasks, hmask, MandatoryLost, MandatoryLost, hdomains]
  have hflag : ∀ d : SensorDomain, d.raw.toNat < 8 →
      seen.updateBitmasks.isFailed d = decide (after.getDomainHealth d = .kFailed) := by
    intro d hd
    have hhealth : after.getDomainHealth d = seen.getDomainHealth d := by
      unfold SafetyArbitrator.getDomainHealth
      rw [hdomains]
    rw [hhealth, Bool.eq_iff_iff, isFailed_updateBitmasks_iff seen d hd, decide_eq_true_iff]
  rw [hmatrix, hflag .kLidar (by decide), hflag .kRadar (by decide), hflag .kCamera (by decide),
    hflag .kGnss (by decide), hflag .kImu (by decide)] at hstate
  constructor
  · intro h
    exact hstate.trans (if_pos (hlost.mpr h))
  · intro h
    exact hstate.trans (if_neg (mt hlost.mp h))

/-- Every call keeps the invariant, if the matrix asks for no emergency stop. -/
theorem arbitratorInv_call (hmatrix : ∀ arb, matrix arb ≠ .kEmergencyStop)
    (inv : ArbitratorInv mandatoryDomains arb) (call : ArbitratorCall) :
    ArbitratorInv mandatoryDomains ((callMachine matrix).step arb call).2 := by
  cases call with
  | init mandatoryDomains' nowMs =>
      have hframe : ArbitratorInv mandatoryDomains (arb.init mandatoryDomains' nowMs).2 := by
        unfold SafetyArbitrator.init
        rw [if_pos inv.initialised]
        exact inv
      exact hframe
  | registerListener listener =>
      have hframe : ArbitratorInv mandatoryDomains (arb.registerListener listener).2 := by
        unfold SafetyArbitrator.registerListener
        cases listener with
        | none =>
            dsimp only
            split_ifs <;> exact inv
        | some listener =>
            dsimp only
            split_ifs <;> exact ⟨inv.initialised, inv.mandatoryMask, inv.currentState⟩
      exact hframe
  | ingestFault fault nowMs => exact arbitratorInv_ingestFault inv fault nowMs
  | ingestSoaEvent event nowMs => exact arbitratorInv_ingestSoaEvent inv event nowMs
  | injectFault domain health dtcCode reportMs nowMs =>
      exact arbitratorInv_ingestFault inv _ nowMs
  | recordHeartbeat domain nowMs => exact arbitratorInv_recordHeartbeat inv domain nowMs
  | arbitrate bridge clock =>
      obtain ⟨hstate, -, -, -, hmask, hinit⟩ := arbitrateWith_spec matrix inv bridge clock
      exact ⟨hinit, hmask, fun hstop => hmatrix _ (hstate.symm.trans hstop)⟩

/-- Every state of a run after `Init` keeps the invariant. -/
theorem arbitratorInv_run (hmatrix : ∀ arb, matrix arb ≠ .kEmergencyStop) {nowMs : UInt64}
    (h : (arb.init mandatoryDomains nowMs).1 = .ok) (calls : List ArbitratorCall) :
    ArbitratorInv mandatoryDomains
      ((callMachine matrix).final (arb.init mandatoryDomains nowMs).2 calls) := by
  apply (callMachine matrix).final_induction
  · exact arbitratorInv_init h
  · intro arb call inv
    exact arbitratorInv_call hmatrix inv call

/-- The call is a cycle. -/
def IsCycle : ArbitratorCall → Prop
  | .arbitrate _ _ => True
  | _ => False

/-- **The reference model is the arbitrator over whole runs.** For every mask of mandatory domains
and every run after a successful `Init`, whatever the clock reads and whatever becomes of the
commands: after each cycle the state is a minimal-risk condition if a mandatory domain is failed and
a mandatory domain has reached the fault threshold, and else that of the reference model over the
domains then failed. No step enters an emergency stop. -/
theorem reference_model_of_run {nowMs : UInt64} (h : (arb.init mandatoryDomains nowMs).1 = .ok)
    (calls : List ArbitratorCall) :
    ∀ e ∈ (callMachine computeRequiredState).history (arb.init mandatoryDomains nowMs).2 calls,
      (IsCycle e.input → Follows referenceModel mandatoryDomains e.after) ∧
        e.after.getCurrentState ≠ .kEmergencyStop := by
  intro e he
  obtain ⟨pre, post, hsplit⟩ := List.append_of_mem he
  obtain ⟨calls₁, call, calls₂, -, -, rfl, -⟩ :=
    (callMachine computeRequiredState).history_eq_append_cons hsplit
  have inv := arbitratorInv_run computeRequiredState_ne_emergencyStop h calls₁
  refine ⟨?_, (arbitratorInv_call computeRequiredState_ne_emergencyStop inv call).currentState⟩
  intro hcycle
  cases call with
  | arbitrate bridge clock => exact follows_arbitrate computeRequiredState_verified inv bridge clock
  | _ => exact absurd hcycle id

/-- An arbitrator for which the LiDAR is mandatory, just initialised. -/
def lidarArbitrator : SafetyArbitrator := (({ ipc := true } : SafetyArbitrator).init 0x01 0).2

/-- The LiDAR is reported failed three times. -/
def lidarReports : List ArbitratorCall :=
  List.replicate 3 (.ingestFault { domain := .kLidar, health := .kFailed } 10)

/-- A cycle over a bridge nobody initialised, so that its send fails. -/
def lidarCycle : ArbitratorCall :=
  .arbitrate { ring := none } { scan := 20, start := 20, finish := 90, log := 90 }

/-- `reference_model_of_run` for the third report of a mandatory domain: the next cycle commands a
minimal-risk condition, though its send fails and it misses its deadline. -/
theorem reference_model_lost_lidar :
    let m := callMachine computeRequiredState
    (m.entry (m.final lidarArbitrator lidarReports) lidarCycle).after.getCurrentState =
      .kMinimalRiskCondition := by
  intro m
  have hinit : (({ ipc := true } : SafetyArbitrator).init 0x01 0).1 = .ok := rfl
  have hmem : m.entry (m.final lidarArbitrator lidarReports) lidarCycle ∈
      m.history lidarArbitrator (lidarReports ++ [lidarCycle]) := by
    rw [Machine.history_concat]
    exact List.mem_append_right _ (List.mem_singleton_self _)
  have hfollows := (reference_model_of_run hinit (lidarReports ++ [lidarCycle]) _ hmem).1 trivial
  exact hfollows.1 ⟨⟨0, by decide, by decide +kernel⟩, ⟨0, by decide, by decide +kernel⟩⟩

end runs

end SotifPlausibility.Verification
