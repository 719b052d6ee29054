import SotifPlausibility.Soa.SensorDomains
import SotifPlausibility.Verification.ReferenceModel

/-!
# Escalation over whole runs

What the commanded state does when sensors are lost, over runs of both copies of the arbitrator.

* `more_failures_never_relax` — the finding the verified copy was changed for, over runs: the same
  calls with any failure reports added never lead to a milder state.
* `priorityOrderedModelPreFix` — the harness's model of the copy before the change;
  `prefix_model_of_run` — it is the copy vendored with the gate, over whole runs.
* `copies_agree_iff` — where the two copies differ, and that the change only ever restricts.
* `silence_restricts` — a sensor that falls silent restricts the state at the next cycle.
* `phantom_mask`, `phantom_mandatory` — what the domain without a sensor does to the commands and to
  the mandatory domains.

Source: `SafetyArbitrator.cpp` (both copies); `verify_safety_arbitrator.cpp`.
-/

namespace SotifPlausibility.Verification

open SotifPlausibility.Found SotifPlausibility.Soa

/-! ### Cycles of either copy -/

section cycles

variable {matrix : SafetyArbitrator → SafeState} (mandatoryDomains : UInt8)
  (hmatrix : ∀ arb, matrix arb ≠ .kEmergencyStop) (nowMs : UInt64)
include hmatrix

/-- Every state of a run keeps the invariant. -/
theorem arbitratorInv_afterCalls (calls : List ArbitratorCall) :
    ArbitratorInv mandatoryDomains (afterCalls matrix mandatoryDomains nowMs calls) :=
  arbitratorInv_run hmatrix rfl calls

/-- **The fault mask after a cycle** is that of the domains the cycle leaves. -/
theorem faultBitmask_cycle (calls : List ArbitratorCall) (bridge : IpcBridge)
    (clock : ClockReadings) :
    let after := afterCalls matrix mandatoryDomains nowMs (calls ++ [.arbitrate bridge clock])
    after.faultBitmask = after.healthMask .kFailed := by
  intro after
  have hafter : after = ((afterCalls matrix mandatoryDomains nowMs calls).arbitrateWith matrix
      bridge clock).arbitrator := Machine.final_concat _ _ _ _
  obtain ⟨-, hdomains, hfaults, -, -, -⟩ := arbitrateWith_spec matrix
    (arbitratorInv_afterCalls mandatoryDomains hmatrix nowMs calls) bridge clock
  rw [← hafter] at hdomains hfaults
  rw [hfaults]
  unfold SafetyArbitrator.healthMask
  rw [hdomains]
  rfl

end cycles

/-! ### The copy before the change -/

/-- The model of the copy before the change: the first condition that holds decides.
Source: `verify_safety_arbitrator.cpp`, `PriorityOrderedModel_PreFix`. -/
def priorityOrderedModelPreFix (lidar radar camera gnss imu : Bool) : SafeState :=
  if lidar && radar then .kMinimalRiskCondition
  else if lidar && !radar then .kRadarCameraFallback
  else if radar && !lidar then .kLidarCameraFallback
  else if camera then .kLidarRadarFallback
  else if gnss && !imu then .kDeadReckoningMode
  else if imu then .kReducedDynamics
  else .kFullOperation

/-- The matrix of the other copy. Its first two returns come to one, since both ask for a
minimal-risk condition. -/
theorem computeRequiredState_preFix (arb : SafetyArbitrator) :
    arb.computeRequiredState =
      if MandatoryTest arb then .kMinimalRiskCondition
      else
        priorityOrderedModelPreFix (arb.isFailed .kLidar) (arb.isFailed .kRadar)
          (arb.isFailed .kCamera) (arb.isFailed .kGnss) (arb.isFailed .kImu) := by
  have hcode : arb.computeRequiredState =
      if arb.isFailed .kLidar && arb.isFailed .kRadar then .kMinimalRiskCondition
      else if MandatoryTest arb then .kMinimalRiskCondition
      else
        priorityOrderedModelPreFix (arb.isFailed .kLidar) (arb.isFailed .kRadar)
          (arb.isFailed .kCamera) (arb.isFailed .kGnss) (arb.isFailed .kImu) := by
    unfold SafetyArbitrator.computeRequiredState priorityOrderedModelPreFix
    by_cases hboth : (arb.isFailed .kLidar && arb.isFailed .kRadar) = true
    · rw [if_pos hboth, if_pos hboth]
    · rw [if_neg hboth, if_neg hboth, if_neg hboth]
      rfl
  rw [hcode]
  by_cases hboth : (arb.isFailed .kLidar && arb.isFailed .kRadar) = true
  · have hmodel : priorityOrderedModelPreFix (arb.isFailed .kLidar) (arb.isFailed .kRadar)
        (arb.isFailed .kCamera) (arb.isFailed .kGnss) (arb.isFailed .kImu) =
          .kMinimalRiskCondition := if_pos hboth
    rw [if_pos hboth, hmodel, ite_self]
  · rw [if_neg hboth]

section models

variable {matrix : SafetyArbitrator → SafeState}
  {model : Bool → Bool → Bool → Bool → Bool → SafeState}

/-- **A copy follows its model over whole runs**: after each cycle the state is a minimal-risk
condition if a mandatory domain is lost, and else that of the model over the domains then failed. -/
theorem follows_afterCalls
    (hmatrix : ∀ arb, matrix arb =
      if MandatoryTest arb then .kMinimalRiskCondition
      else
        model (arb.isFailed .kLidar) (arb.isFailed .kRadar) (arb.isFailed .kCamera)
          (arb.isFailed .kGnss) (arb.isFailed .kImu))
    (hstop : ∀ arb, matrix arb ≠ .kEmergencyStop) (mandatoryDomains : UInt8) (nowMs : UInt64)
    (calls : List ArbitratorCall) (bridge : IpcBridge) (clock : ClockReadings) :
    Follows model mandatoryDomains
      (afterCalls matrix mandatoryDomains nowMs (calls ++ [.arbitrate bridge clock])) := by
  have hafter : afterCalls matrix mandatoryDomains nowMs (calls ++ [.arbitrate bridge clock]) =
      ((afterCalls matrix mandatoryDomains nowMs calls).arbitrateWith matrix bridge
        clock).arbitrator := Machine.final_concat _ _ _ _
  rw [hafter]
  exact follows_arbitrate hmatrix
    (arbitratorInv_afterCalls mandatoryDomains hstop nowMs calls) bridge clock

end models

section copies

variable (mandatoryDomains : UInt8) (nowMs : UInt64)

/-- The verified copy follows the reference model. -/
theorem follows_verified (calls : List ArbitratorCall) (bridge : IpcBridge)
    (clock : ClockReadings) :
    Follows referenceModel mandatoryDomains
      (afterCalls computeRequiredState mandatoryDomains nowMs
        (calls ++ [.arbitrate bridge clock])) :=
  follows_afterCalls computeRequiredState_verified computeRequiredState_ne_emergencyStop
    mandatoryDomains nowMs calls bridge clock

/-- **The harness's model of the copy before the change is the copy vendored with the gate**, over
whole runs: for every mask of mandatory domains and every run after `Init`, after each cycle the
state is a minimal-risk condition if a mandatory domain is lost, and else that of the
priority-ordered model over the domains then failed. -/
theorem prefix_model_of_run (calls : List ArbitratorCall) (bridge : IpcBridge)
    (clock : ClockReadings) :
    Follows priorityOrderedModelPreFix mandatoryDomains
      (afterCalls SafetyArbitrator.computeRequiredState mandatoryDomains nowMs
        (calls ++ [.arbitrate bridge clock])) :=
  follows_afterCalls computeRequiredState_preFix
    SafetyArbitrator.computeRequiredState_ne_emergencyStop mandatoryDomains nowMs calls bridge clock

/-- The groups of domains the priority-ordered model asks for one after the other: the two ranging
sensors, the camera, and the two of position. -/
def failedGroups (lidar radar camera gnss imu : Bool) : ℕ :=
  [lidar || radar, camera, gnss || imu].count true

/-- The change of the matrix only restricts, and it changes what failures in two groups ask for,
unless both ranging sensors are lost. -/
theorem models_compare (lidar radar camera gnss imu : Bool) :
    severityOf (priorityOrderedModelPreFix lidar radar camera gnss imu) ≤
        severityOf (referenceModel lidar radar camera gnss imu) ∧
      (priorityOrderedModelPreFix lidar radar camera gnss imu =
          referenceModel lidar radar camera gnss imu ↔
        (lidar && radar) = true ∨ failedGroups lidar radar camera gnss imu ≤ 1) := by
  revert lidar radar camera gnss imu
  decide

/-- The domains of the two copies are the same at any time. -/
theorem domains_afterCalls (matrix matrix' : SafetyArbitrator → SafeState)
    (calls : List ArbitratorCall) :
    (afterCalls matrix mandatoryDomains nowMs calls).domains =
      (afterCalls matrix' mandatoryDomains nowMs calls).domains := by
  apply Vector.ext
  intro i hi
  have hget := get_afterCalls matrix mandatoryDomains nowMs calls ⟨i, hi⟩
  rw [← get_afterCalls matrix'] at hget
  exact hget

/-- **Where the two copies differ.** Give both the same calls. After each cycle the copy before the
change is never in a severer state than the verified one, and the two are in the same state exactly
when a mandatory domain is lost, or both ranging sensors are failed, or the failed domains lie in
one group. -/
theorem copies_agree_iff (calls : List ArbitratorCall) (bridge : IpcBridge)
    (clock : ClockReadings) :
    let preFix := afterCalls SafetyArbitrator.computeRequiredState mandatoryDomains nowMs
      (calls ++ [.arbitrate bridge clock])
    let verified := afterCalls computeRequiredState mandatoryDomains nowMs
      (calls ++ [.arbitrate bridge clock])
    severityOf preFix.getCurrentState ≤ severityOf verified.getCurrentState ∧
      (preFix.getCurrentState = verified.getCurrentState ↔
        MandatoryLost mandatoryDomains verified ∨
          (verified.getDomainHealth .kLidar = .kFailed ∧
            verified.getDomainHealth .kRadar = .kFailed) ∨
          failedGroups (verified.getDomainHealth .kLidar = .kFailed)
            (verified.getDomainHealth .kRadar = .kFailed)
            (verified.getDomainHealth .kCamera = .kFailed)
            (verified.getDomainHealth .kGnss = .kFailed)
            (verified.getDomainHealth .kImu = .kFailed) ≤ 1) := by
  intro preFix verified
  have hdomains : preFix.domains = verified.domains :=
    domains_afterCalls mandatoryDomains nowMs _ _ (calls ++ [.arbitrate bridge clock])
  have hlost : MandatoryLost mandatoryDomains preFix ↔ MandatoryLost mandatoryDomains verified := by
    unfold MandatoryLost
    rw [hdomains]
  have hmodel : modelState priorityOrderedModelPreFix preFix =
      modelState priorityOrderedModelPreFix verified := by
    unfold modelState SafetyArbitrator.getDomainHealth
    rw [hdomains]
  have hpre := follows_afterCalls computeRequiredState_preFix
    SafetyArbitrator.computeRequiredState_ne_emergencyStop mandatoryDomains nowMs calls bridge clock
  have hverified := follows_verified mandatoryDomains nowMs calls bridge clock
  by_cases h : MandatoryLost mandatoryDomains verified
  · have hsame : preFix.getCurrentState = verified.getCurrentState :=
      (hpre.1 (hlost.mpr h)).trans (hverified.1 h).symm
    exact ⟨le_of_eq (congrArg severityOf hsame), iff_of_true hsame (Or.inl h)⟩
  · have hpreState := (hpre.2 (mt hlost.mp h)).trans hmodel
    have hverifiedState := hverified.2 h
    obtain ⟨hle, hiff⟩ := models_compare (verified.getDomainHealth .kLidar = .kFailed)
      (verified.getDomainHealth .kRadar = .kFailed) (verified.getDomainHealth .kCamera = .kFailed)
      (verified.getDomainHealth .kGnss = .kFailed) (verified.getDomainHealth .kImu = .kFailed)
    rw [hpreState, hverifiedState]
    refine ⟨hle, hiff.trans ?_⟩
    rw [Bool.and_eq_true, decide_eq_true_iff, decide_eq_true_iff]
    exact (or_iff_right h).symm

end copies

/-! ### More failures -/

section more

/-- The second run makes the calls of the first, as the domains see them, and failure reports in
between. -/
inductive MoreFailures : List ArbitratorCall → List ArbitratorCall → Prop
  | nil : MoreFailures [] []
  | both {call call' : ArbitratorCall} {cs cs' : List ArbitratorCall}
      (hsame : ∀ i, domainInput i call = domainInput i call') (h : MoreFailures cs cs') :
      MoreFailures (call :: cs) (call' :: cs')
  | extra {call' : ArbitratorCall} {cs cs' : List ArbitratorCall} {fault : SensorFaultEvent}
      {nowMs : UInt64} (hfault : call'.fault = some (fault, nowMs))
      (hfailed : fault.health = .kFailed) (h : MoreFailures cs cs') :
      MoreFailures cs (call' :: cs')

/-- One domain in two runs, the second with more failures: either they agree, up to the number of
faults, or the second alone is failed, and has counted more. -/
structure NoBetter (n : ℕ) (dom dom' : DomainState) : Prop where
  heartbeat : dom.lastHeartbeat = dom'.lastHeartbeat
  bound : dom'.faultCount.toNat ≤ n
  cases : (dom.health = dom'.health ∧ (dom.faultCount.toNat = 0 ↔ dom'.faultCount.toNat = 0) ∧
      dom.faultCount.toNat ≤ dom'.faultCount.toNat ∧
      (dom'.health = .kFailed → 0 < dom.faultCount.toNat)) ∨
    (dom.health ≠ .kFailed ∧ dom'.health = .kFailed ∧
      dom.faultCount.toNat < dom'.faultCount.toNat)

variable {n : ℕ} {dom dom' : DomainState}

/-- The second run has counted at least as many faults. -/
theorem NoBetter.toNat_le (h : NoBetter n dom dom') :
    dom.faultCount.toNat ≤ dom'.faultCount.toNat := by
  obtain ⟨-, -, hle, -⟩ | ⟨-, -, hlt⟩ := h.cases
  · exact hle
  · exact hlt.le

/-- A common report keeps the comparison: the two then agree. -/
theorem noBetter_sameReport (h : NoBetter n dom dom') (hn : n + 1 < 2 ^ 32)
    (health : SensorHealth) (faultCode : UInt32) (nowMs : UInt64) :
    NoBetter (n + 1) (dom.report health faultCode nowMs) (dom'.report health faultCode nowMs) := by
  have hle := h.toNat_le
  have hbound := h.bound
  have hsucc : (dom.faultCount + 1).toNat = dom.faultCount.toNat + 1 :=
    toNat_faultCount_succ (by omega)
  have hsucc' : (dom'.faultCount + 1).toNat = dom'.faultCount.toNat + 1 :=
    toNat_faultCount_succ (by omega)
  unfold DomainState.report
  by_cases hnominal : health = .kNominal
  · rw [if_pos hnominal, if_pos hnominal]
    have hnever (hfailed : health = .kFailed) : False :=
      SensorHealth.kFailed_ne_kNominal (hfailed.symm.trans hnominal)
    exact ⟨rfl, Nat.zero_le _, Or.inl ⟨rfl, Iff.rfl, le_rfl, fun h => (hnever h).elim⟩⟩
  · rw [if_neg hnominal, if_neg hnominal]
    refine ⟨h.heartbeat, ?_, Or.inl ⟨rfl, ?_, ?_, fun _ => ?_⟩⟩
    all_goals dsimp only; omega

/-- A common heartbeat keeps it. -/
theorem noBetter_heartbeat (h : NoBetter n dom dom') (nowMs : UInt64) :
    NoBetter (n + 1) (dom.heartbeat nowMs) (dom'.heartbeat nowMs) := by
  have hhealth : ∀ dom : DomainState, (dom.heartbeat nowMs).health =
      if dom.faultCount.toNat = 0 then .kNominal else dom.health :=
    fun dom => if_congr UInt32.toNat_inj.symm rfl rfl
  refine ⟨rfl, Nat.le_succ_of_le h.bound, ?_⟩
  rw [hhealth, hhealth]
  obtain ⟨hsame, hzero, hle, hfailed⟩ | ⟨hdom, hdom', hlt⟩ := h.cases
  · left
    rw [hsame, if_congr hzero rfl rfl]
    refine ⟨rfl, hzero, hle, ?_⟩
    split_ifs with hclear
    · exact fun h => absurd h.symm SensorHealth.kFailed_ne_kNominal
    · exact hfailed
  · right
    have hfaulty : ¬ dom'.faultCount.toNat = 0 := by omega
    rw [if_neg hfaulty]
    refine ⟨?_, hdom', hlt⟩
    split_ifs
    · exact SensorHealth.kFailed_ne_kNominal.symm
    · exact hdom

/-- A common scan keeps it. -/
theorem noBetter_scan (h : NoBetter n dom dom') (hn : n + 1 < 2 ^ 32) (nowMs : UInt64) :
    NoBetter (n + 1) (SafetyArbitrator.scanDomain nowMs dom)
      (SafetyArbitrator.scanDomain nowMs dom') := by
  have hle := h.toNat_le
  obtain ⟨hbeat, hbound, hcases⟩ := h
  have hsucc : (dom.faultCount + 1).toNat = dom.faultCount.toNat + 1 :=
    toNat_faultCount_succ (by omega)
  have hsucc' : (dom'.faultCount + 1).toNat = dom'.faultCount.toNat + 1 :=
    toNat_faultCount_succ (by omega)
  rw [scanDomain_eq, scanDomain_eq, hbeat]
  by_cases hsilent : dom'.lastHeartbeat.toNat + 100 < nowMs.toNat
  · obtain ⟨hsame, hzero, hle, hfailed⟩ | ⟨hdom, hdom', hlt⟩ := hcases
    · by_cases hdom : dom'.health = .kFailed
      · have hboth : ∀ P : Prop, ¬ (P ∧ dom'.health ≠ .kFailed) := fun _ h => h.2 hdom
        rw [hsame, if_neg (hboth _), if_neg (hboth _)]
        exact ⟨hbeat, by omega, Or.inl ⟨hsame, hzero, hle, hfailed⟩⟩
      · rw [hsame, if_pos ⟨hsilent, hdom⟩, if_pos ⟨hsilent, hdom⟩]
        refine ⟨rfl, ?_, Or.inl ⟨rfl, ?_, ?_, fun _ => ?_⟩⟩
        all_goals dsimp only; omega
    · -- the first run loses the domain too, and counts one fault
      have hcounted : ¬ (dom'.lastHeartbeat.toNat + 100 < nowMs.toNat ∧
          dom'.health ≠ .kFailed) := fun h => h.2 hdom'
      rw [if_pos ⟨hsilent, hdom⟩, if_neg hcounted]
      refine ⟨rfl, by omega, Or.inl ⟨hdom'.symm, ?_, ?_, fun _ => ?_⟩⟩
      all_goals dsimp only; omega
  · have hheard : ∀ P : Prop, ¬ (dom'.lastHeartbeat.toNat + 100 < nowMs.toNat ∧ P) :=
      fun _ h => hsilent h.1
    rw [if_neg (hheard _), if_neg (hheard _)]
    exact ⟨hbeat, by omega, hcases⟩

/-- **A common input keeps the comparison.** -/
theorem noBetter_step (h : NoBetter n dom dom') (hn : n + 1 < 2 ^ 32) (d : DomainInput) :
    NoBetter (n + 1) (dom.step d) (dom'.step d) := by
  cases d with
  | report health faultCode nowMs => exact noBetter_sameReport h hn health faultCode nowMs
  | heartbeat nowMs => exact noBetter_heartbeat h nowMs
  | scan nowMs => exact noBetter_scan h hn nowMs

/-- A failure report to the second alone keeps it. -/
theorem noBetter_report (h : NoBetter n dom dom') (hn : n + 1 < 2 ^ 32) (faultCode : UInt32)
    (nowMs : UInt64) : NoBetter (n + 1) dom (dom'.step (.report .kFailed faultCode nowMs)) := by
  have hbound := h.bound
  have hsucc : (dom'.faultCount + 1).toNat = dom'.faultCount.toNat + 1 :=
    toNat_faultCount_succ (by omega)
  have hcount : (dom'.step (.report .kFailed faultCode nowMs)).faultCount.toNat =
      dom'.faultCount.toNat + 1 := hsucc
  refine ⟨h.heartbeat, by omega, ?_⟩
  rw [hcount]
  obtain ⟨hhealth, hzero, hle, hfailed⟩ | ⟨hhealth, -, hlt⟩ := h.cases
  · by_cases hdom : dom.health = .kFailed
    · have hpos := hfailed (hhealth.symm.trans hdom)
      exact Or.inl ⟨hdom, by omega, by omega, fun _ => hpos⟩
    · exact Or.inr ⟨hdom, rfl, by omega⟩
  · exact Or.inr ⟨hhealth, rfl, by omega⟩

/-- The bound on the count may be larger. -/
theorem NoBetter.mono (h : NoBetter n dom dom') {m : ℕ} (hm : n ≤ m) : NoBetter m dom dom' :=
  ⟨h.heartbeat, h.bound.trans hm, h.cases⟩

/-- The comparison over two runs. -/
theorem noBetter_foldl {calls calls' : List ArbitratorCall} (hmore : MoreFailures calls calls')
    (h : NoBetter n dom dom') (hn : n + calls'.length < 2 ^ 32) (i : Fin 8) :
    NoBetter (n + calls'.length) ((calls.filterMap (domainInput i)).foldl DomainState.step dom)
      ((calls'.filterMap (domainInput i)).foldl DomainState.step dom') := by
  induction hmore generalizing n dom dom' with
  | nil => exact h
  | @both call call' cs cs' hsame _ ih =>
      rw [List.length_cons] at hn ⊢
      have hshift : n + (cs'.length + 1) = n + 1 + cs'.length := by omega
      rw [hshift]
      cases hread : domainInput i call' with
      | none =>
          rw [List.filterMap_cons_none hread, List.filterMap_cons_none ((hsame i).trans hread)]
          exact ih (h.mono (Nat.le_succ n)) (by omega)
      | some d =>
          rw [List.filterMap_cons_some hread, List.filterMap_cons_some ((hsame i).trans hread),
            List.foldl_cons, List.foldl_cons]
          exact ih (noBetter_step h (by omega) d) (by omega)
  | @extra call' cs cs' fault nowMs hfault hfailed _ ih =>
      rw [List.length_cons] at hn ⊢
      have hshift : n + (cs'.length + 1) = n + 1 + cs'.length := by omega
      have hread := domainInput_of_fault hfault i
      rw [hfailed] at hread
      rw [hshift]
      by_cases hnames : fault.domain.Names i
      · rw [if_pos hnames] at hread
        rw [List.filterMap_cons_some hread, List.foldl_cons]
        exact ih (noBetter_report h (by omega) fault.faultCode nowMs) (by omega)
      · rw [if_neg hnames] at hread
        rw [List.filterMap_cons_none hread]
        exact ih (h.mono (Nat.le_succ n)) (by omega)

/-- What the comparison says of a domain. -/
theorem NoBetter.failed (h : NoBetter n dom dom') (hfailed : dom.health = .kFailed) :
    dom'.health = .kFailed := by
  obtain ⟨hsame, -⟩ | ⟨hdom, -⟩ := h.cases
  · exact hsame.symm.trans hfailed
  · exact absurd hfailed hdom

/-- The second run has counted at least as many faults. -/
theorem NoBetter.faultCount_le (h : NoBetter n dom dom') : dom.faultCount ≤ dom'.faultCount :=
  UInt32.le_iff_toNat_le.mpr h.toNat_le

/-- More failed domains never make the reference model milder. -/
theorem referenceModel_mono {lidar radar camera gnss imu lidar' radar' camera' gnss' imu' : Bool}
    (hlidar : lidar ≤ lidar') (hradar : radar ≤ radar') (hcamera : camera ≤ camera')
    (hgnss : gnss ≤ gnss') (himu : imu ≤ imu') :
    severityOf (referenceModel lidar radar camera gnss imu) ≤
      severityOf (referenceModel lidar' radar' camera' gnss' imu') := by
  revert lidar radar camera gnss imu lidar' radar' camera' gnss' imu'
  decide

/-- No state the matrix asks for is severer than a minimal-risk condition. -/
theorem severityOf_referenceModel_le (lidar radar camera gnss imu : Bool) :
    severityOf (referenceModel lidar radar camera gnss imu) ≤
      severityOf .kMinimalRiskCondition := by
  revert lidar radar camera gnss imu
  decide

/-- Let two arbitrators follow the model. If the second has all the failed domains of the first, and
no mandatory domain with fewer faults, its state is no milder. -/
theorem Follows.severityOf_le {mandatoryDomains : UInt8} {arb arb' : SafetyArbitrator}
    (h : Follows referenceModel mandatoryDomains arb)
    (h' : Follows referenceModel mandatoryDomains arb')
    (hfailed : ∀ i : Fin 8, (arb.domains.get i).health = .kFailed →
      (arb'.domains.get i).health = .kFailed)
    (hcount : ∀ i : Fin 8, testMask mandatoryDomains i = true →
      (arb.domains.get i).faultCount ≤ (arb'.domains.get i).faultCount) :
    severityOf arb.getCurrentState ≤ severityOf arb'.getCurrentState := by
  by_cases hlost' : MandatoryLost mandatoryDomains arb'
  · rw [h'.1 hlost']
    by_cases hlost : MandatoryLost mandatoryDomains arb
    · rw [h.1 hlost]
    · rw [h.2 hlost]
      exact severityOf_referenceModel_le _ _ _ _ _
  · have hlost : ¬ MandatoryLost mandatoryDomains arb := by
      rintro ⟨⟨i, hi, hdown⟩, j, hj, hfaults⟩
      exact hlost' ⟨⟨i, hi, hfailed i hdown⟩, j, hj, UInt32.le_trans hfaults (hcount j hj)⟩
    have hflag : ∀ d : SensorDomain, d.raw.toNat < 8 →
        decide (arb.getDomainHealth d = .kFailed) ≤
          decide (arb'.getDomainHealth d = .kFailed) := by
      intro d hd
      unfold SafetyArbitrator.getDomainHealth
      rw [Vector.getElem?_eq_getElem hd, Vector.getElem?_eq_getElem hd]
      exact Bool.le_iff_imp.mpr fun hdown =>
        decide_eq_true (hfailed ⟨d.raw.toNat, hd⟩ (of_decide_eq_true hdown))
    rw [h.2 hlost, h'.2 hlost']
    exact referenceModel_mono (hflag _ (by decide)) (hflag _ (by decide)) (hflag _ (by decide))
      (hflag _ (by decide)) (hflag _ (by decide))

/-- One more common call. -/
theorem MoreFailures.concat {calls calls' : List ArbitratorCall} (h : MoreFailures calls calls')
    {call call' : ArbitratorCall} (hsame : ∀ i, domainInput i call = domainInput i call') :
    MoreFailures (calls ++ [call]) (calls' ++ [call']) := by
  induction h with
  | nil => exact .both hsame .nil
  | both hboth _ ih => exact .both hboth ih
  | extra hfault hfailed _ ih => exact .extra hfault hfailed ih

/-- **More failures never relax the state** of the verified copy. Take any run after `Init`, and
the same calls with any failure reports added anywhere, by `ingestFault`, by events or injected,
whatever becomes of the commands in either. After a cycle at the same time the second run is in a
state at least as severe as the first, as long as the fault counters do not wrap. -/
theorem more_failures_never_relax (mandatoryDomains : UInt8) (nowMs : UInt64)
    {calls calls' : List ArbitratorCall} (hmore : MoreFailures calls calls')
    (hlen : calls'.length + 1 < 2 ^ 32) (bridge bridge' : IpcBridge) {clock clock' : ClockReadings}
    (hscan : clock.scan = clock'.scan) :
    severityOf (afterCalls computeRequiredState mandatoryDomains nowMs
        (calls ++ [.arbitrate bridge clock])).getCurrentState ≤
      severityOf (afterCalls computeRequiredState mandatoryDomains nowMs
        (calls' ++ [.arbitrate bridge' clock'])).getCurrentState := by
  have hcycle : ∀ i, domainInput i (.arbitrate bridge clock) =
      domainInput i (.arbitrate bridge' clock') := by
    intro i
    simp only [domainInput, hscan]
  have hcompare : ∀ i : Fin 8,
      NoBetter (0 + (calls' ++ [ArbitratorCall.arbitrate bridge' clock']).length)
      ((afterCalls computeRequiredState mandatoryDomains nowMs
        (calls ++ [.arbitrate bridge clock])).domains.get i)
      ((afterCalls computeRequiredState mandatoryDomains nowMs
        (calls' ++ [.arbitrate bridge' clock'])).domains.get i) := by
    intro i
    have hstart : NoBetter 0 ((started mandatoryDomains nowMs).domains.get i)
        ((started mandatoryDomains nowMs).domains.get i) := by
      rw [get_started]
      exact ⟨rfl, le_refl 0, Or.inl ⟨rfl, Iff.rfl, le_refl 0, fun h =>
        absurd h SensorHealth.kUnknown_ne_kFailed⟩⟩
    rw [get_afterCalls, get_afterCalls]
    refine noBetter_foldl (hmore.concat hcycle) hstart ?_ i
    rw [List.length_append, List.length_singleton, Nat.zero_add]
    exact hlen
  exact (follows_verified mandatoryDomains nowMs calls bridge clock).severityOf_le
    (follows_verified mandatoryDomains nowMs calls' bridge' clock')
    (fun i => (hcompare i).failed) (fun i _ => (hcompare i).faultCount_le)

/-- A report that a sensor has failed. -/
def failureOf (domain : SensorDomain) : ArbitratorCall :=
  .ingestFault { domain, health := .kFailed } 10

/-- `more_failures_never_relax` for a lost camera and a LiDAR lost with it. -/
theorem more_failures_never_relax_lidar :
    severityOf (afterCalls computeRequiredState 0 0
        ([failureOf .kCamera] ++ [cycleAt 20])).getCurrentState ≤
      severityOf (afterCalls computeRequiredState 0 0
        ([failureOf .kCamera, failureOf .kLidar] ++ [cycleAt 20])).getCurrentState :=
  more_failures_never_relax 0 0 (.both (fun _ => rfl) (.extra rfl rfl .nil)) (by decide) _ _ rfl

/-- The copy before the change goes the other way. -/
example :
    severityOf (afterCalls SafetyArbitrator.computeRequiredState 0 0
        ([failureOf .kCamera, failureOf .kLidar] ++ [cycleAt 20])).getCurrentState <
      severityOf (afterCalls SafetyArbitrator.computeRequiredState 0 0
        ([failureOf .kCamera] ++ [cycleAt 20])).getCurrentState := by
  decide +kernel

end more

/-! ### Silence -/

section silence

variable (mandatoryDomains : UInt8) (nowMs : UInt64) (calls : List ArbitratorCall)
  (bridge : IpcBridge) (clock : ClockReadings)

/-- The last sign of life of a domain: a heartbeat, a nominal report, or else `Init`. -/
def lastSign (i : Fin 8) : UInt64 :=
  ((calls.filterMap (domainInput i)).filterMap DomainInput.sign).getLast?.getD nowMs

/-- **A sensor that falls silent restricts the state.** In every run of the verified copy, at a
cycle more than 100 ms after the last sign of life of a sensor, that sensor is failed, and the state
is at least as severe as what its loss alone asks for. -/
theorem silence_restricts (i : Fin 8)
    (hsilent : (lastSign nowMs calls i).toNat + 100 < clock.scan.toNat) :
    let after := afterCalls computeRequiredState mandatoryDomains nowMs
      (calls ++ [.arbitrate bridge clock])
    (after.domains.get i).health = .kFailed ∧
      severityOf (referenceModel (i = 0) (i = 1) (i = 2) (i = 3) (i = 4)) ≤
        severityOf after.getCurrentState := by
  intro after
  have hread : domainInput i (.arbitrate bridge clock) = some (.scan clock.scan) := rfl
  have hdom : after.domains.get i = ((calls.filterMap (domainInput i)).foldl DomainState.step
      ((started mandatoryDomains nowMs).domains.get i)).step (.scan clock.scan) := by
    rw [get_afterCalls, List.filterMap_append, List.filterMap_cons_some hread, List.filterMap_nil,
      List.foldl_append, List.foldl_cons, List.foldl_nil]
  have hfailed : (after.domains.get i).health = .kFailed := by
    have hscan := scanDomain_eq clock.scan ((calls.filterMap (domainInput i)).foldl
      DomainState.step ((started mandatoryDomains nowMs).domains.get i))
    rw [lastHeartbeat_foldl, get_started] at hscan
    rw [hdom, get_started]
    refine (congrArg DomainState.health hscan).trans ?_
    split_ifs with h
    · rfl
    · by_contra hhealth
      exact h ⟨hsilent, hhealth⟩
  refine ⟨hfailed, ?_⟩
  have hfollows := follows_verified mandatoryDomains nowMs calls bridge clock
  by_cases hlost : MandatoryLost mandatoryDomains after
  · rw [hfollows.1 hlost]
    exact severityOf_referenceModel_le _ _ _ _ _
  · have hflag : ∀ d : SensorDomain, ∀ hd : d.raw.toNat < 8,
        decide (i = ⟨d.raw.toNat, hd⟩) ≤ decide (after.getDomainHealth d = .kFailed) := by
      intro d hd
      unfold SafetyArbitrator.getDomainHealth
      rw [Vector.getElem?_eq_getElem hd]
      refine Bool.le_iff_imp.mpr fun h => decide_eq_true ?_
      rw [of_decide_eq_true h] at hfailed
      exact hfailed
    rw [hfollows.2 hlost]
    exact referenceModel_mono (hflag .kLidar (by decide)) (hflag .kRadar (by decide))
      (hflag .kCamera (by decide)) (hflag .kGnss (by decide)) (hflag .kImu (by decide))

/-- `silence_restricts` for an IMU that was last heard of at time 50. -/
theorem silence_restricts_imu :
    let after := afterCalls computeRequiredState 0 0
      ([.recordHeartbeat .kImu 50, .recordHeartbeat .kLidar 120] ++
        [.arbitrate { ring := none } { scan := 151, start := 151, finish := 151, log := 151 }])
    (after.domains.get 4).health = .kFailed ∧
      severityOf .kReducedDynamics ≤ severityOf after.getCurrentState :=
  silence_restricts 0 0 [.recordHeartbeat .kImu 50, .recordHeartbeat .kLidar 120] _ _ 4 (by decide)

end silence

/-! ### The domain without a sensor -/

section phantom

variable (mandatoryDomains : UInt8) (nowMs : UInt64) (calls : List ArbitratorCall)

/-- Only a cycle computes the masks. -/
theorem faultBitmask_step {arb : SafetyArbitrator} (matrix : SafetyArbitrator → SafeState)
    (hinit : arb.initialised = true) {call : ArbitratorCall}
    (hcall : ∀ bridge clock, call ≠ .arbitrate bridge clock) :
    ((callMachine matrix).step arb call).2.faultBitmask = arb.faultBitmask := by
  have hreport : ∀ fault nowMs,
      (arb.ingestFault fault nowMs).2.faultBitmask = arb.faultBitmask := by
    intro fault nowMs
    unfold SafetyArbitrator.ingestFault
    dsimp only
    split_ifs <;> rfl
  cases call with
  | init mandatoryDomains nowMs =>
      show (arb.init mandatoryDomains nowMs).2.faultBitmask = _
      unfold SafetyArbitrator.init
      rw [if_pos hinit]
  | registerListener listener =>
      show (arb.registerListener listener).2.faultBitmask = _
      unfold SafetyArbitrator.registerListener
      cases listener with
      | none =>
          dsimp only
          split_ifs <;> rfl
      | some listener =>
          dsimp only
          split_ifs <;> rfl
  | ingestFault fault nowMs => exact hreport fault nowMs
  | ingestSoaEvent event nowMs =>
      show (arb.ingestSoaEvent event nowMs).2.faultBitmask = _
      unfold SafetyArbitrator.ingestSoaEvent
      split_ifs
      · rfl
      · rfl
      · exact hreport _ nowMs
  | injectFault domain health dtcCode reportMs nowMs => exact hreport _ nowMs
  | recordHeartbeat domain nowMs =>
      show (arb.recordHeartbeat domain nowMs).2.faultBitmask = _
      unfold SafetyArbitrator.recordHeartbeat
      dsimp only
      split_ifs <;> rfl
  | arbitrate bridge clock => exact absurd rfl (hcall bridge clock)

/-- **The fault mask of the commands.** In every run of the verified copy the eighth bit of the
fault mask, which belongs to no sensor, is set exactly from the first cycle on that comes more than
100 ms after `Init`. -/
theorem phantom_mask :
    testMask (afterCalls computeRequiredState mandatoryDomains nowMs calls).getFaultBitmask 7 =
        true ↔ LateCycle nowMs calls := by
  induction calls using List.reverseRecOn with
  | nil =>
      have hclear : (afterCalls computeRequiredState mandatoryDomains nowMs []).getFaultBitmask =
          0 := rfl
      rw [hclear]
      refine iff_of_false (by decide) ?_
      rintro ⟨_, _, hmem, -⟩
      exact absurd hmem List.not_mem_nil
  | append_singleton calls call ih =>
      by_cases hcycle : ∃ bridge clock, call = .arbitrate bridge clock
      · obtain ⟨bridge, clock, rfl⟩ := hcycle
        obtain ⟨-, hlate, hearly⟩ := phantom_domain computeRequiredState mandatoryDomains nowMs
          (calls ++ [.arbitrate bridge clock])
        have hfaults := faultBitmask_cycle mandatoryDomains
          computeRequiredState_ne_emergencyStop nowMs calls bridge clock
        rw [SafetyArbitrator.getFaultBitmask, hfaults]
        refine ((testMask_iff _ 7).trans (has_healthMask _ .kFailed 7)).trans ?_
        refine ⟨fun hfailed => ?_, fun h => (hlate h).1⟩
        by_contra hnot
        exact SensorHealth.kUnknown_ne_kFailed ((hearly hnot).1.symm.trans hfailed)
      · have hcall : ∀ bridge clock, call ≠ .arbitrate bridge clock :=
          fun bridge clock h => hcycle ⟨bridge, clock, h⟩
        have inv := arbitratorInv_afterCalls mandatoryDomains
          computeRequiredState_ne_emergencyStop nowMs calls
        have hafter : (afterCalls computeRequiredState mandatoryDomains nowMs
            (calls ++ [call])).faultBitmask = _ :=
          (congrArg SafetyArbitrator.faultBitmask (Machine.final_concat _ _ _ _)).trans
            (faultBitmask_step computeRequiredState inv.initialised hcall)
        have hsingle : ¬ LateCycle nowMs [call] := by
          rintro ⟨bridge, clock, hmem, -⟩
          exact hcall bridge clock (List.mem_singleton.mp hmem).symm
        rw [SafetyArbitrator.getFaultBitmask, hafter, lateCycle_concat, or_iff_left hsingle]
        exact ih

/-- **A mandatory domain without a sensor.** If the eighth domain is mandatory, then from the first
late cycle on the loss of a mandatory domain needs no failure at all: three faults in a row of any
mandatory domain, degraded reports included, force a minimal-risk condition. -/
theorem phantom_mandatory (bridge : IpcBridge) (clock : ClockReadings)
    (hmandatory : testMask mandatoryDomains 7 = true)
    (hlate : LateCycle nowMs (calls ++ [.arbitrate bridge clock])) :
    let after := afterCalls computeRequiredState mandatoryDomains nowMs
      (calls ++ [.arbitrate bridge clock])
    ((∃ i : Fin 8, testMask mandatoryDomains i = true ∧ 3 ≤ (after.domains.get i).faultCount) →
        after.getCurrentState = .kMinimalRiskCondition) ∧
      (¬ (∃ i : Fin 8, testMask mandatoryDomains i = true ∧
          3 ≤ (after.domains.get i).faultCount) →
        after.getCurrentState = modelState referenceModel after) := by
  intro after
  have hfailed := ((phantom_domain computeRequiredState mandatoryDomains nowMs
    (calls ++ [.arbitrate bridge clock])).2.1 hlate).1
  have hlost : MandatoryLost mandatoryDomains after ↔
      ∃ i : Fin 8, testMask mandatoryDomains i = true ∧ 3 ≤ (after.domains.get i).faultCount :=
    and_iff_right ⟨7, hmandatory, hfailed⟩
  rw [← hlost]
  exact follows_verified mandatoryDomains nowMs calls bridge clock

/-- The LiDAR is reported degraded. -/
def degradedLidar : ArbitratorCall := .ingestFault { domain := .kLidar, health := .kDegraded } 10

/-- `phantom_mandatory` for a LiDAR that is degraded but alive. -/
theorem phantom_mandatory_degraded :
    let after := afterCalls computeRequiredState 0x81 0
      ([degradedLidar, degradedLidar, degradedLidar, .recordHeartbeat .kLidar 190] ++
        [cycleAt 200])
    (after.domains.get 0).health = .kDegraded ∧
      after.getCurrentState = .kMinimalRiskCondition := by
  intro after
  have hlidar : (after.domains.get 0).health = .kDegraded ∧
      3 ≤ (after.domains.get 0).faultCount := by
    rw [get_afterCalls]
    decide +kernel
  refine ⟨hlidar.1, ?_⟩
  exact (phantom_mandatory 0x81 0 _ _ _ (by decide) ⟨_, _, List.mem_append_right _
    (List.mem_singleton_self _), by decide⟩).1 ⟨0, by decide, hlidar.2⟩

end phantom

end SotifPlausibility.Verification
