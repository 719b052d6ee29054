import SotifPlausibility.Found.Checks
import SotifPlausibility.Sotif.GateSystem

/-!
# The verdict of the gate

What an evaluation decides, as a property of the whole history.

* `checks config prior c nowMs` — the specification: eight conditions in order, over the thresholds
  in force and the numbers `prior` of the candidates judged before.
* `decides_verdict` — the code's nested tests decide exactly these checks, for a gate whose replay
  guard stands for `prior`.
* `GateInv` — the gate's state agrees with what the outside saw: the thresholds are those of the
  last successful `Init`, and the guard blocks the numbers up to the largest one judged.
* `evaluate_decides`, `accepted_strictly_increasing`, `accepted_finite_iff` — the results.
-/

namespace SotifPlausibility.Sotif

open SotifPlausibility.Found SotifPlausibility.Soa

/-! ### The specification -/

/-- A confidence: a finite number in `[0, 1]`. -/
def IsConfidence (v : Float32) : Prop := v.isFinite = true ∧ 0.0 ≤ v ∧ v ≤ 1.0

/-- The conditions on freshness and sequence. -/
def freshnessChecks (config : SotifPlausibilityConfig) (prior : List UInt32)
    (c : PerceptionCandidateEvent) (nowMs : UInt32) : List (Check SotifRejectReason) :=
  [⟨c.timestampMs ≤ nowMs, .kInvalidInput⟩,
    ⟨nowMs - c.timestampMs ≤ config.maxInputAgeMs, .kStaleInput⟩,
    ⟨∀ n ∈ prior, n < c.sequenceNum, .kSequenceAnomaly⟩]

/-- The conditions on the two confidences. -/
def confidenceChecks (config : SotifPlausibilityConfig) (c : PerceptionCandidateEvent) :
    List (Check SotifRejectReason) :=
  [⟨IsConfidence c.primaryConfidence ∧ IsConfidence c.secondaryConfidence, .kInvalidInput⟩,
    ⟨config.minConfidence ≤ c.primaryConfidence ∧ config.minConfidence ≤ c.secondaryConfidence,
      .kLowConfidence⟩,
    ⟨(c.primaryConfidence - c.secondaryConfidence).abs ≤ config.maxConfidenceDisagreement,
      .kCrossEstimateDisagreement⟩]

/-- The conditions on the calibration drift. -/
def driftChecks (config : SotifPlausibilityConfig) (c : PerceptionCandidateEvent) :
    List (Check SotifRejectReason) :=
  [⟨c.calibrationDriftMetric.isFinite = true ∧ 0.0 ≤ c.calibrationDriftMetric, .kInvalidInput⟩,
    ⟨c.calibrationDriftMetric ≤ config.maxCalibrationDrift, .kCalibrationDrift⟩]

/-- All conditions of an acceptance, in the order they are tested. -/
def checks (config : SotifPlausibilityConfig) (prior : List UInt32)
    (c : PerceptionCandidateEvent) (nowMs : UInt32) : List (Check SotifRejectReason) :=
  freshnessChecks config prior c nowMs ++ (confidenceChecks config c ++ driftChecks config c)

/-! ### The code decides the specification -/

section decides

variable {gate : SotifPlausibilityGate} {prior : List UInt32} {c : PerceptionCandidateEvent}
  {nowMs : UInt32}

/-- The lower bound of a confidence is no NaN. -/
theorem isNaN_zero : (0.0 : Float32).isNaN = false := by decide

/-- The upper bound of a confidence is no NaN. -/
theorem isNaN_one : (1.0 : Float32).isNaN = false := by decide

/-- A confidence, as the code tests it. -/
theorem isConfidence_iff (v : Float32) :
    IsConfidence v ↔ ¬ (¬ v.isFinite ∨ v < 0.0 ∨ v > 1.0) := by
  unfold IsConfidence
  by_cases hv : v.isFinite = true
  · have hnan := Binary32.isNaN_of_isFinite32 hv
    rw [← Binary32.not_lt hnan isNaN_zero, ← Binary32.not_lt isNaN_one hnan]
    simp [hv]
  · simp [hv]

/-- The thresholds a gate may have in force are numbers in range. -/
theorem valid_isNaN {config : SotifPlausibilityConfig} (h : config.Valid) :
    config.maxConfidenceDisagreement.isNaN = false ∧ config.minConfidence.isNaN = false ∧
      config.maxCalibrationDrift.isNaN = false := by
  unfold SotifPlausibilityConfig.Valid at h
  simp only [not_or, not_not] at h
  exact ⟨Binary32.isNaN_of_isFinite32 h.1, Binary32.isNaN_of_isFinite32 h.2.2.1,
    Binary32.isNaN_of_isFinite32 h.2.2.2.2.2.1⟩

/-- The replay guard stands for the numbers judged before: it blocks those that do not exceed all
of them. -/
def Guards (gate : SotifPlausibilityGate) (prior : List UInt32) : Prop :=
  ∀ x, (gate.hasPriorSample = true ∧ x ≤ gate.lastSequence) ↔ ∃ n ∈ prior, x ≤ n

/-- The freshness check decides its checks. -/
theorem decides_freshness (hguard : Guards gate prior) :
    Decides (freshnessChecks gate.config prior c nowMs)
      (gate.checkFreshnessAndSequence c nowMs) := by
  unfold SotifPlausibilityGate.checkFreshnessAndSequence
  split_ifs with hfuture hstale hseq
  · exact decides_cons_of_not (by simpa using hfuture) _
  · apply decides_cons_of_holds (by simpa using hfuture)
    exact decides_cons_of_not (by simpa using hstale) _
  · apply decides_cons_of_holds (by simpa using hfuture)
    apply decides_cons_of_holds (by simpa using hstale)
    obtain ⟨n, hn, hle⟩ := (hguard _).mp hseq
    apply decides_cons_of_not
    intro h
    exact UInt32.not_lt.mpr hle (h n hn)
  · apply decides_cons_of_holds (by simpa using hfuture)
    apply decides_cons_of_holds (by simpa using hstale)
    refine decides_cons_of_holds ?_ (decides_nil _)
    intro n hn
    apply UInt32.not_le.mp
    intro hle
    exact hseq ((hguard _).mpr ⟨n, hn, hle⟩)

/-- The confidence check decides its checks. -/
theorem decides_confidence (hvalid : gate.config.Valid) :
    Decides (confidenceChecks gate.config c) (gate.checkCrossEstimateConfidence c) := by
  obtain ⟨hdis, hmin, -⟩ := valid_isNaN hvalid
  unfold SotifPlausibilityGate.checkCrossEstimateConfidence
  by_cases hrange : IsConfidence c.primaryConfidence ∧ IsConfidence c.secondaryConfidence
  · have hp := Binary32.isNaN_of_isFinite32 hrange.1.1
    have hs := Binary32.isNaN_of_isFinite32 hrange.2.1
    have hdiff : (c.primaryConfidence - c.secondaryConfidence).abs.isNaN = false :=
      Binary32.isNaN_abs (Binary32.isNaN_sub hrange.1.1 hrange.2.1)
    rw [if_neg (by
      have h := hrange
      rw [isConfidence_iff, isConfidence_iff] at h
      tauto)]
    apply decides_cons_of_holds hrange
    by_cases hlow : c.primaryConfidence < gate.config.minConfidence ∨
        c.secondaryConfidence < gate.config.minConfidence
    · rw [if_pos hlow]
      apply decides_cons_of_not
      intro h
      rcases hlow with hlow | hlow
      · exact (Binary32.not_lt hp hmin).mpr h.1 hlow
      · exact (Binary32.not_lt hs hmin).mpr h.2 hlow
    · rw [if_neg hlow]
      rw [not_or] at hlow
      refine decides_cons_of_holds
        ⟨(Binary32.not_lt hp hmin).mp hlow.1, (Binary32.not_lt hs hmin).mp hlow.2⟩ ?_
      simp only
      split_ifs with hbig
      · exact decides_cons_of_not (fun h => (Binary32.not_lt hdis hdiff).mpr h hbig) _
      · exact decides_cons_of_holds ((Binary32.not_lt hdis hdiff).mp hbig) (decides_nil _)
  · rw [if_pos (by
      rw [isConfidence_iff, isConfidence_iff] at hrange
      tauto)]
    exact decides_cons_of_not hrange _

/-- The drift check decides its checks. -/
theorem decides_drift (hvalid : gate.config.Valid) :
    Decides (driftChecks gate.config c) (gate.checkCalibrationDrift c) := by
  obtain ⟨-, -, hmax⟩ := valid_isNaN hvalid
  unfold SotifPlausibilityGate.checkCalibrationDrift
  by_cases hfin : c.calibrationDriftMetric.isFinite = true
  · have hnan := Binary32.isNaN_of_isFinite32 hfin
    by_cases hneg : c.calibrationDriftMetric < 0.0
    · rw [if_pos (Or.inr hneg)]
      apply decides_cons_of_not
      intro h
      exact (Binary32.not_lt hnan isNaN_zero).mpr h.2 hneg
    · rw [if_neg (by simp [hfin, hneg])]
      refine decides_cons_of_holds ⟨hfin, (Binary32.not_lt hnan isNaN_zero).mp hneg⟩ ?_
      split_ifs with hbig
      · exact decides_cons_of_not (fun h => (Binary32.not_lt hmax hnan).mpr h hbig) _
      · exact decides_cons_of_holds ((Binary32.not_lt hmax hnan).mp hbig) (decides_nil _)
  · rw [if_pos (Or.inl hfin)]
    apply decides_cons_of_not
    intro h
    exact hfin h.1

/-- The verdict is the answer of the three checks in sequence. -/
theorem verdict_eq :
    gate.verdict c nowMs =
      if (gate.checkFreshnessAndSequence c nowMs).1 = true then
        if (gate.checkCrossEstimateConfidence c).1 = true then gate.checkCalibrationDrift c
        else (false, (gate.checkCrossEstimateConfidence c).2)
      else (false, (gate.checkFreshnessAndSequence c nowMs).2) := by
  have hdrift : (gate.checkCalibrationDrift c).1 = true →
      (gate.checkCalibrationDrift c).2 = .kNone := by
    unfold SotifPlausibilityGate.checkCalibrationDrift
    split_ifs <;> simp
  unfold SotifPlausibilityGate.verdict
  by_cases h1 : (gate.checkFreshnessAndSequence c nowMs).1 = true
  · by_cases h2 : (gate.checkCrossEstimateConfidence c).1 = true
    · by_cases h3 : (gate.checkCalibrationDrift c).1 = true
      · simp only [h1, h2, h3, Bool.not_true, Bool.false_eq_true, if_false, if_true]
        exact Prod.ext h3.symm (hdrift h3).symm
      · have h3' : (gate.checkCalibrationDrift c).1 = false := by simpa using h3
        simp only [h1, h2, h3', Bool.not_true, Bool.false_eq_true, if_false, if_true,
          Bool.not_false]
        exact Prod.ext h3'.symm rfl
    · simp [h1, h2]
  · simp [h1]

/-- **The code decides the specification.** -/
theorem decides_verdict (hvalid : gate.config.Valid) (hguard : Guards gate prior) :
    Decides (checks gate.config prior c nowMs) (gate.verdict c nowMs) := by
  rw [verdict_eq]
  exact decides_append (decides_freshness hguard)
    (decides_append (decides_confidence hvalid) (decides_drift hvalid))

end decides

/-! ### The state and the history -/

section invariant

/-- The gate's state agrees with what the outside saw of the run. -/
structure GateInv (h : List GateEntry) (s : GateSystem) : Prop where
  ipc : s.gate.ipc = true
  /-- The gate is initialised with the thresholds of the last successful `Init`. -/
  config : lastConfig h = if s.gate.initialised = true then some s.gate.config else none
  valid : s.gate.initialised = true → s.gate.config.Valid
  /-- The replay guard stands for all candidates judged. -/
  guard : Guards s.gate (judgedNumbers h)

/-- Judging a candidate adds its number to those the guard stands for. -/
theorem guards_advance {gate : SotifPlausibilityGate} {prior : List UInt32}
    {c : PerceptionCandidateEvent} (h : Guards gate prior) :
    Guards (gate.advance c) (prior ++ [c.sequenceNum]) := by
  intro x
  have hx := h x
  have hc := h c.sequenceNum
  simp only [UInt32.le_iff_toNat_le] at hx hc
  simp only [List.mem_append, List.mem_singleton, or_and_right, exists_or, exists_eq_left,
    UInt32.le_iff_toNat_le]
  unfold SotifPlausibilityGate.advance
  by_cases hfwd : (!gate.hasPriorSample) = true ∨ c.sequenceNum > gate.lastSequence
  · -- the guard moves to the new number, which is above all it stood for
    rw [if_pos hfwd]
    simp only [true_and]
    constructor
    · intro hle
      exact Or.inr hle
    · rintro (hold | hle)
      · obtain ⟨hprior, hle⟩ := hx.mpr hold
        rcases hfwd with hnone | hgt
        · simp [hprior] at hnone
        · have hgt' : gate.lastSequence.toNat < c.sequenceNum.toNat :=
            UInt32.lt_iff_toNat_lt.mp hgt
          omega
      · exact hle
  · -- the new number is already blocked
    rw [if_neg hfwd, hx]
    obtain ⟨hprior, hle⟩ := not_or.mp hfwd
    have hprior' : gate.hasPriorSample = true := by simpa using hprior
    have hle' : c.sequenceNum.toNat ≤ gate.lastSequence.toNat := by
      have := UInt32.not_lt.mp hle
      exact UInt32.le_iff_toNat_le.mp this
    constructor
    · intro hold
      exact Or.inl hold
    · rintro (hold | hxc)
      · exact hold
      · exact hx.mp ⟨hprior', by omega⟩

/-- A new gate has judged nothing. -/
theorem gateInv_nil (bridge : IpcBridge) : GateInv [] (GateSystem.start bridge) where
  ipc := rfl
  config := rfl
  valid := fun h => absurd h Bool.false_ne_true
  guard := by
    intro x
    simp [GateSystem.start, judgedNumbers]

/-- A step without a verdict adds nothing to the judged numbers. -/
theorem judgedNumbers_concat_none {h : List GateEntry} {e : GateEntry} (he : judged e = none) :
    judgedNumbers (h ++ [e]) = judgedNumbers h := by
  rw [judgedNumbers_concat, he]
  simp

/-- A step without a candidate judges none. -/
theorem judged_eq_none {e : GateEntry} (he : e.input.candidate = none) : judged e = none := by
  unfold judged
  rw [he]
  split_ifs <;> rfl

/-- One step keeps the invariant. -/
theorem gateInv_step {h : List GateEntry} {s : GateSystem} (inv : GateInv h s) (i : GateInput) :
    GateInv (h ++ [gateMachine.entry s i]) (gateMachine.step s i).2 := by
  obtain ⟨hipc, hconfig, hvalid, hguard⟩ := inv
  rw [gateMachine_step]
  rcases gateStep_cases s i with ⟨config, rfl⟩ | ⟨c, nowMs, hcand, hinit, hstep⟩ |
    ⟨hcand, hinit, hgate⟩
  · -- an `Init` takes the thresholds if they are valid, and touches nothing else
    have hnumbers := judgedNumbers_concat_none (h := h)
      (judged_eq_none (e := gateMachine.entry s (.init config)) rfl)
    rcases s.gate.init_cases config with ⟨⟨-, hv⟩, hres⟩ | ⟨-, herr, hsame⟩
    · have hstep : gateStep s (.init config) =
          ({ result := .ok }, { s with gate := { s.gate with config, initialised := true } }) := by
        simp [gateStep, hres]
      have hinit : initConfig (gateMachine.entry s (.init config)) = some config := by
        simp [initConfig, hstep]
      rw [hstep]
      exact
        { ipc := hipc
          config := by rw [lastConfig_concat, hinit]; rfl
          valid := fun _ => hv
          guard := by rw [hnumbers]; exact hguard }
    · have hstep : (gateStep s (.init config)).2 = s := by
        simp only [gateStep, hsame]
      have hinit : initConfig (gateMachine.entry s (.init config)) = none := if_neg herr
      rw [hstep]
      exact
        { ipc := hipc
          config := by rw [lastConfig_concat, hinit, Option.none_or, hconfig]
          valid := hvalid
          guard := by rw [hnumbers]; exact hguard }
  · -- a candidate is judged by an initialised gate, and then its number is remembered
    have hlast : lastConfig (h ++ [gateMachine.entry s i]) = lastConfig h := by
      rw [lastConfig_concat, hinit, Option.none_or]
    rcases s.gate.evaluate_cases s.bridge c nowMs with
      ⟨-, hres, hgate, -, -⟩ | ⟨-, -, hout⟩ | ⟨-, -, hout⟩
    · have hjudged : judged (gateMachine.entry s i) = none := by
        rcases hres with hres | hres <;> simp [judged, hstep, hres]
      rw [hstep, hgate]
      exact
        { ipc := hipc
          config := by rw [hlast, hconfig]
          valid := hvalid
          guard := by rw [judgedNumbers_concat_none hjudged]; exact hguard }
    · have hjudged : judged (gateMachine.entry s i) = some c := by
        simp [judged, hstep, hout, hcand]
      rw [hstep, hout]
      exact
        { ipc := by simp [hipc]
          config := by simp [hlast, hconfig]
          valid := by simpa using hvalid
          guard := by
            rw [judgedNumbers_concat, hjudged]
            exact guards_advance hguard }
    · have hjudged : judged (gateMachine.entry s i) = some c := by
        simp [judged, hstep, hout, hcand]
      rw [hstep, hout]
      exact
        { ipc := by simp [hipc]
          config := by simp [hlast, hconfig]
          valid := by simpa using hvalid
          guard := by
            rw [judgedNumbers_concat, hjudged]
            exact guards_advance hguard }
  · exact
      { ipc := by rw [hgate, hipc]
        config := by rw [lastConfig_concat, hinit, hgate, Option.none_or, hconfig]
        valid := by rw [hgate]; exact hvalid
        guard := by rw [judgedNumbers_concat_none (judged_eq_none hcand), hgate]; exact hguard }

/-- **Every run keeps the state and the history in agreement.** -/
theorem gateInv_run (bridge : IpcBridge) (is : List GateInput) :
    GateInv (gateMachine.history (GateSystem.start bridge) is)
      (gateMachine.final (GateSystem.start bridge) is) :=
  gateMachine.run_induction (gateInv_nil bridge) (fun _ _ i inv => gateInv_step inv i) is

/-- In a run, an accepted candidate passed every check of the thresholds in force. -/
theorem accepted_allHold {h : List GateEntry} {s : GateSystem} (inv : GateInv h s) {i : GateInput}
    {c : PerceptionCandidateEvent}
    (hacc : acceptedCandidate (gateMachine.entry s i) = some c) :
    ∃ nowMs, AllHold (checks s.gate.config (judgedNumbers h) c nowMs) := by
  unfold acceptedCandidate at hacc
  rw [Machine.entry_input, Machine.entry_output, gateMachine_step] at hacc
  split_ifs at hacc with hok
  obtain ⟨nowMs, -, hstep⟩ := gateStep_of_candidate s hacc
  rw [hstep] at hok
  rcases s.gate.evaluate_cases s.bridge c nowMs with
    ⟨-, hres, -⟩ | ⟨hready, hv, -⟩ | ⟨-, -, hout⟩
  · rcases hres with hres | hres <;> simp [hres] at hok
  · exact ⟨nowMs, (decides_verdict (inv.valid hready.1) inv.guard).flag_iff.mp hv⟩
  · simp [hout] at hok

/-- The numbers of the candidates a run accepted, oldest first. -/
def acceptedNumbers (h : List GateEntry) : List UInt32 :=
  (h.filterMap acceptedCandidate).map (·.sequenceNum)

/-- The numbers accepted, by the last step. -/
theorem acceptedNumbers_concat (h : List GateEntry) (e : GateEntry) :
    acceptedNumbers (h ++ [e]) =
      acceptedNumbers h ++ ((acceptedCandidate e).map (·.sequenceNum)).toList := by
  unfold acceptedNumbers
  rw [filterMap_concat, List.map_append, Option.toList_map]

/-- What was accepted was judged. -/
theorem acceptedNumbers_subset (h : List GateEntry) : acceptedNumbers h ⊆ judgedNumbers h := by
  unfold acceptedNumbers judgedNumbers
  apply List.map_subset
  intro c hc
  obtain ⟨e, he, hacc⟩ := List.mem_filterMap.mp hc
  refine List.mem_filterMap.mpr ⟨e, he, ?_⟩
  unfold acceptedCandidate at hacc
  split_ifs at hacc with hok
  unfold judged
  rw [if_pos (Or.inl hok), hacc]

/-- One step keeps the accepted numbers increasing: a new one is above all judged before. -/
theorem acceptedNumbers_step {h : List GateEntry} {s : GateSystem} (inv : GateInv h s)
    (hpair : (acceptedNumbers h).Pairwise (· < ·)) (i : GateInput) :
    (acceptedNumbers (h ++ [gateMachine.entry s i])).Pairwise (· < ·) := by
  rw [acceptedNumbers_concat]
  cases hacc : acceptedCandidate (gateMachine.entry s i) with
  | none => simpa using hpair
  | some c =>
      obtain ⟨nowMs, hall⟩ := accepted_allHold inv hacc
      have hnew : ∀ n ∈ judgedNumbers h, n < c.sequenceNum :=
        hall ⟨_, .kSequenceAnomaly⟩ (by simp [checks, freshnessChecks])
      refine List.pairwise_append.mpr ⟨hpair, List.pairwise_singleton _ _, ?_⟩
      intro n hn n' hn'
      rw [List.mem_singleton.mp hn']
      exact hnew n (acceptedNumbers_subset h hn)

/-- The accepted numbers of every run strictly increase. -/
theorem acceptedNumbers_pairwise (bridge : IpcBridge) (is : List GateInput) :
    (acceptedNumbers (gateMachine.history (GateSystem.start bridge) is)).Pairwise (· < ·) := by
  have hrun : GateInv (gateMachine.history (GateSystem.start bridge) is)
      (gateMachine.final (GateSystem.start bridge) is) ∧
        (acceptedNumbers (gateMachine.history (GateSystem.start bridge) is)).Pairwise (· < ·) := by
    apply gateMachine.run_induction
      (P := fun h s => GateInv h s ∧ (acceptedNumbers h).Pairwise (· < ·))
    · exact ⟨gateInv_nil bridge, List.Pairwise.nil⟩
    · rintro h s i ⟨inv, hpair⟩
      exact ⟨gateInv_step inv i, acceptedNumbers_step inv hpair i⟩
  exact hrun.2

end invariant

/-! ### Results -/

section results

/-- **The verdict is the specification.** In every run of a gate with a bridge pointer, a candidate
evaluated after a successful `Init` is accepted exactly when it passes the eight checks of the
thresholds last put in force, over the numbers of all candidates judged before; otherwise the
call fails and the reason is that of the first check that fails. So the accepted numbers
strictly increase. -/
theorem evaluate_decides (bridge : IpcBridge) (is : List GateInput) :
    let h := gateMachine.history (GateSystem.start bridge) is
    let s := gateMachine.final (GateSystem.start bridge) is
    (∀ config c nowMs, lastConfig h = some config →
        let out := s.gate.evaluate s.bridge c nowMs
        let spec := checks config (judgedNumbers h) c nowMs
        (out.result = .ok ↔ AllHold spec) ∧
          (¬ AllHold spec →
            out.result = .err .kInvalidArgument ∧
              FirstFailed spec out.gate.getLastRejectReason)) ∧
      (acceptedNumbers h).Pairwise (· < ·) := by
  intro h s
  have inv : GateInv h s := gateInv_run bridge is
  refine ⟨?_, acceptedNumbers_pairwise bridge is⟩
  intro config c nowMs hlast
  -- the thresholds last put in force are the gate's
  have hinit : s.gate.initialised = true := by
    by_contra hnot
    rw [inv.config, if_neg hnot] at hlast
    simp at hlast
  have hconfig : s.gate.config = config := by
    rw [inv.config, if_pos hinit] at hlast
    exact Option.some.inj hlast
  have hdec : Decides (checks config (judgedNumbers h) c nowMs) (s.gate.verdict c nowMs) := by
    rw [← hconfig]
    exact decides_verdict (inv.valid hinit) inv.guard
  simp only
  rcases s.gate.evaluate_cases s.bridge c nowMs with
    ⟨hnot, -⟩ | ⟨-, hv, hout⟩ | ⟨-, hv, hout⟩
  · exact absurd ⟨hinit, inv.ipc⟩ hnot
  · have hall := hdec.flag_iff.mp hv
    rw [hout]
    exact ⟨⟨fun _ => hall, fun _ => rfl⟩, fun hnot => absurd hall hnot⟩
  · have hfail := hdec.firstFailed hv
    rw [hout]
    exact ⟨⟨fun hok => absurd hok (by simp), fun hall => absurd hall hfail.not_allHold⟩,
      fun _ => ⟨rfl, hfail⟩⟩

/-- A candidate with fresh, confident and consistent estimates, and the given lateral
acceleration. -/
def nominalCandidate (lateralAccelMps2 : Float32) : PerceptionCandidateEvent where
  lateralAccelMps2
  longitudinalDecelMps2 := 2.0
  steeringAngleDeg := 10.0
  primaryConfidence := 0.9
  secondaryConfidence := 0.85
  calibrationDriftMetric := 0.05
  timestampMs := 100
  sequenceNum := 1

/-- `evaluate_decides` for a nominal candidate with number 1, evaluated after a second `Init` with
other thresholds, before which a candidate with number 3 was rejected for its confidence. -/
theorem evaluate_decides_after_init :
    let config : SotifPlausibilityConfig := { minConfidence := 0.75 }
    let s := gateMachine.final (GateSystem.start { ring := none })
      [.init {}, .evaluate { nominalCandidate 1.5 with primaryConfidence := 0.1, sequenceNum := 3 }
        120, .init config]
    let out := s.gate.evaluate s.bridge (nominalCandidate 1.5) 120
    let spec := checks config [3] (nominalCandidate 1.5) 120
    (out.result = .ok ↔ AllHold spec) ∧
      (¬ AllHold spec →
        out.result = .err .kInvalidArgument ∧ FirstFailed spec out.gate.getLastRejectReason) :=
  (evaluate_decides { ring := none } _).1 { minConfidence := 0.75 } (nominalCandidate 1.5) 120
    (by decide)

/-- All six numbers of a candidate are finite. -/
def AllFinite (c : PerceptionCandidateEvent) : Prop :=
  c.lateralAccelMps2.isFinite = true ∧ c.longitudinalDecelMps2.isFinite = true ∧
    c.steeringAngleDeg.isFinite = true ∧ c.primaryConfidence.isFinite = true ∧
    c.secondaryConfidence.isFinite = true ∧ c.calibrationDriftMetric.isFinite = true

/-- The three command values pass the arbitrator's validators. -/
def PassesValidators (c : PerceptionCandidateEvent) : Prop :=
  validateSteeringAngle c.steeringAngleDeg = .ok ∧
    validateDeceleration c.longitudinalDecelMps2 = .ok ∧
    validateLateralAccel c.lateralAccelMps2 = .ok

/-- The three command values are inside the physical envelope. -/
def InEnvelope (c : PerceptionCandidateEvent) : Prop :=
  c.steeringAngleDeg.abs ≤ kMaxSteeringAngleDeg ∧
    c.longitudinalDecelMps2.abs ≤ kMaxLongitudinalDecelMps2 ∧
    c.lateralAccelMps2.abs ≤ kMaxLateralAccelMps2

/-- Finite command values that pass the validators are inside the envelope. -/
theorem inEnvelope_of_passesValidators {c : PerceptionCandidateEvent} (hfin : AllFinite c)
    (hpass : PassesValidators c) : InEnvelope c :=
  ⟨(validateAbs_iff (by decide) hfin.2.2.1).mp hpass.1,
    (validateAbs_iff (by decide) hfin.2.1).mp hpass.2.1,
    (validateAbs_iff (by decide) hfin.1).mp hpass.2.2⟩

/-- **When an accepted candidate is fully finite.** In every run, a candidate the gate accepted is
finite in all six fields, and inside the envelope if it passes the validators, exactly when its
three command values are finite: the gate tests the other three and never these. -/
theorem accepted_finite_iff (bridge : IpcBridge) (is : List GateInput) (e : GateEntry)
    (he : e ∈ gateMachine.history (GateSystem.start bridge) is) (c : PerceptionCandidateEvent)
    (hacc : acceptedCandidate e = some c) :
    (AllFinite c ∧ (PassesValidators c → InEnvelope c)) ↔
      c.lateralAccelMps2.isFinite = true ∧ c.longitudinalDecelMps2.isFinite = true ∧
        c.steeringAngleDeg.isFinite = true := by
  constructor
  · intro h
    exact ⟨h.1.1, h.1.2.1, h.1.2.2.1⟩
  · rintro ⟨hlat, hdecel, hsteer⟩
    obtain ⟨pre, post, hsplit⟩ := List.append_of_mem he
    obtain ⟨is₁, i, is₂, -, rfl, rfl, -⟩ := gateMachine.history_eq_append_cons hsplit
    obtain ⟨nowMs, hall⟩ := accepted_allHold (gateInv_run bridge is₁) hacc
    have hconf : IsConfidence c.primaryConfidence ∧ IsConfidence c.secondaryConfidence :=
      hall ⟨_, .kInvalidInput⟩ (by simp [checks, confidenceChecks])
    have hdrift : c.calibrationDriftMetric.isFinite = true ∧ 0.0 ≤ c.calibrationDriftMetric :=
      hall ⟨_, .kInvalidInput⟩ (by simp [checks, driftChecks])
    have hfin : AllFinite c := ⟨hlat, hdecel, hsteer, hconf.1.1, hconf.2.1, hdrift.1⟩
    exact ⟨hfin, inEnvelope_of_passesValidators hfin⟩

/-- A new gate after `Init` with the default thresholds. -/
def initialisedGate : GateSystem := gateMachine.final (GateSystem.start { ring := none }) [.init {}]

/-- `accepted_finite_iff` for a candidate with finite values. -/
theorem accepted_finite_nominal :
    (AllFinite (nominalCandidate 1.5) ∧
        (PassesValidators (nominalCandidate 1.5) → InEnvelope (nominalCandidate 1.5))) ↔
      (1.5 : Float32).isFinite = true ∧ (2.0 : Float32).isFinite = true ∧
        (10.0 : Float32).isFinite = true :=
  accepted_finite_iff { ring := none } [.init {}, .evaluate (nominalCandidate 1.5) 120]
    (gateMachine.entry initialisedGate (.evaluate (nominalCandidate 1.5) 120))
    (List.mem_cons_of_mem _ (List.mem_singleton_self _)) (nominalCandidate 1.5) (by decide)

/-- A quiet NaN. -/
def quietNaN : Float32 := Float32.ofBits 0x7FC00000

/-- A candidate whose lateral acceleration is NaN is accepted, passes every validator, and is
neither finite nor inside the envelope. -/
theorem accepted_nan_lateral :
    acceptedCandidate
        (gateMachine.entry initialisedGate (.evaluate (nominalCandidate quietNaN) 120)) =
      some (nominalCandidate quietNaN) ∧
      ¬ AllFinite (nominalCandidate quietNaN) ∧ PassesValidators (nominalCandidate quietNaN) ∧
      ¬ InEnvelope (nominalCandidate quietNaN) := by
  have hpass : PassesValidators (nominalCandidate quietNaN) :=
    ⟨by decide, by decide, validateAbs_of_isNaN (by decide)⟩
  exact ⟨by decide, fun h => absurd h.1 (by decide), hpass, fun h => absurd h.2.2 (by decide)⟩

end results

end SotifPlausibility.Sotif
