import SotifPlausibility.Sotif.ReplayGuard

/-!
# Tightening the thresholds

What a change of the thresholds does to the answers of a whole run. The replay guard moves on every
verdict, so it stands for the same candidates whatever the answers were. So the runs of two gates
can be compared answer by answer, although they go apart.

* `AtLeastAsStrict` — the order on thresholds; `plausible_mono` — it is the order on what passes.
* `initialisedWith` — a new gate after `Init`; `verdicts_ok_iff` — its answers by the inputs alone.
* `accepted_of_stricter` — under stricter thresholds, nothing is accepted that was not before.

Source: `SotifPlausibilityGate.cpp`, `CheckFreshnessAndSequence`, `CheckCrossEstimateConfidence`,
`CheckCalibrationDrift` and `Evaluate`.
-/

namespace SotifPlausibility.Sotif

open SotifPlausibility.Found SotifPlausibility.Soa

/-! ### Thresholds -/

section thresholds

/-- The thresholds `A` leave at most as much room as `B`. -/
structure AtLeastAsStrict (A B : SotifPlausibilityConfig) : Prop where
  maxConfidenceDisagreement : A.maxConfidenceDisagreement ≤ B.maxConfidenceDisagreement
  minConfidence : B.minConfidence ≤ A.minConfidence
  maxCalibrationDrift : A.maxCalibrationDrift ≤ B.maxCalibrationDrift
  maxInputAgeMs : A.maxInputAgeMs ≤ B.maxInputAgeMs

variable {A B : SotifPlausibilityConfig} {c : PerceptionCandidateEvent} {nowMs : UInt32}

/-- **What passes the stricter thresholds passes the others.** -/
theorem plausible_mono (h : AtLeastAsStrict A B) (hA : Plausible A c nowMs) :
    Plausible B c nowMs := by
  unfold Plausible AllHold checks freshnessChecks confidenceChecks driftChecks at hA ⊢
  simp only [List.cons_append, List.nil_append, List.forall_mem_cons, List.not_mem_nil,
    false_implies, implies_true, true_and, and_true] at hA ⊢
  obtain ⟨hpast, hage, hrange, ⟨hprimary, hsecondary⟩, hdisagreement, hdrift, hcalibration⟩ := hA
  refine ⟨hpast, ?_, hrange, ⟨?_, ?_⟩, ?_, hdrift, ?_⟩
  · exact UInt32.le_trans hage h.maxInputAgeMs
  · exact Binary32.le_trans h.minConfidence hprimary
  · exact Binary32.le_trans h.minConfidence hsecondary
  · exact Binary32.le_trans hdisagreement h.maxConfidenceDisagreement
  · exact Binary32.le_trans hcalibration h.maxCalibrationDrift

end thresholds

/-! ### Runs under two thresholds -/

section runs

/-- A new gate after `Init` with some thresholds. -/
def initialisedWith (bridge : IpcBridge) (config : SotifPlausibilityConfig) : GateSystem :=
  gateMachine.final (GateSystem.start bridge) [.init config]

/-- `Init` takes the thresholds of a new gate. -/
def InitAccepts (config : SotifPlausibilityConfig) : Prop :=
  (({ ipc := true } : SotifPlausibilityGate).init config).1 = .ok

variable {A B config : SotifPlausibilityConfig}

/-- What a successful `Init` leaves of a new gate. -/
theorem gate_initialisedWith (hinit : InitAccepts config) (bridge : IpcBridge) :
    (initialisedWith bridge config).gate = { ipc := true, config, initialised := true } := by
  show (({ ipc := true } : SotifPlausibilityGate).init config).2 = _
  rcases SotifPlausibilityGate.init_cases { ipc := true } config with ⟨-, hres⟩ | ⟨-, herr, -⟩
  · rw [hres]
  · exact absurd hinit herr

/-- An answer of the new gate, by the inputs before it: the guard stands for all of them, whatever
the answers to them were. -/
theorem evaluate_ok_iff_of_initialisedWith (hinit : InitAccepts config) (bridge : IpcBridge)
    (cs : List (PerceptionCandidateEvent × UInt32)) (c : PerceptionCandidateEvent)
    (nowMs : UInt32) :
    let s := gateMachine.final (initialisedWith bridge config) (evaluations cs)
    (s.gate.evaluate s.bridge c nowMs).result = .ok ↔
      Plausible config c nowMs ∧ ∀ n ∈ cs.map (·.1.sequenceNum), n < c.sequenceNum := by
  intro s
  have inv : GateInv (gateMachine.history (GateSystem.start bridge) [.init config])
      (initialisedWith bridge config) := gateInv_run bridge [.init config]
  have hnone : judgedNumbers (gateMachine.history (GateSystem.start bridge) [.init config]) = [] :=
    judgedNumbers_concat_none (h := []) (judged_eq_none rfl)
  have hgate := gate_initialisedWith hinit bridge
  have hinitialised : (initialisedWith bridge config).gate.initialised = true := by
    rw [hgate]
  have hconfig : (initialisedWith bridge config).gate.config = config := by
    rw [hgate]
  obtain ⟨invRun, hinitRun, hconfigRun, hnumbers⟩ := evaluations_spec inv hinitialised cs
  have hok := evaluate_ok_iff invRun hinitRun c nowMs
  rw [hconfigRun, hconfig, hnumbers, hnone, List.nil_append] at hok
  exact hok

/-- Answers by position. -/
theorem verdicts_getElem? (s : GateSystem) (cs : List (PerceptionCandidateEvent × UInt32))
    (k : ℕ) :
    (verdicts s cs)[k]? = cs[k]?.map fun c =>
      let s' := gateMachine.final s (evaluations (cs.take k))
      (s'.gate.evaluate s'.bridge c.1 c.2).result := by
  unfold verdicts evaluations
  rw [List.getElem?_map, Machine.history_getElem?, List.getElem?_map, Option.map_map,
    Option.map_map, List.map_take]
  rfl

/-- **Where a run accepts**, by the inputs alone. -/
theorem verdicts_ok_iff (hinit : InitAccepts config) (bridge : IpcBridge)
    (cs : List (PerceptionCandidateEvent × UInt32)) (k : ℕ) :
    (verdicts (initialisedWith bridge config) cs)[k]? = some .ok ↔
      ∃ c nowMs, cs[k]? = some (c, nowMs) ∧ Plausible config c nowMs ∧
        ∀ n ∈ (cs.take k).map (·.1.sequenceNum), n < c.sequenceNum := by
  rw [verdicts_getElem?]
  constructor
  · intro h
    obtain ⟨⟨c, nowMs⟩, hc, hok⟩ := Option.map_eq_some_iff.mp h
    exact ⟨c, nowMs, hc,
      (evaluate_ok_iff_of_initialisedWith hinit bridge (cs.take k) c nowMs).mp hok⟩
  · rintro ⟨c, nowMs, hc, hpass⟩
    rw [hc]
    exact congrArg some
      ((evaluate_ok_iff_of_initialisedWith hinit bridge (cs.take k) c nowMs).mpr hpass)

/-- **Tightening the thresholds only removes acceptances.** Let `Init` take `A` and `B`, and let `A`
be at least as strict. Evaluate the same candidates at the same times on a new gate initialised with
`A` and on one initialised with `B`, whatever the bridges are: what the first accepts at a position,
the second accepts at that position. -/
theorem accepted_of_stricter (hA : InitAccepts A) (hB : InitAccepts B) (h : AtLeastAsStrict A B)
    (bridge bridge' : IpcBridge) (cs : List (PerceptionCandidateEvent × UInt32)) (k : ℕ)
    (hok : (verdicts (initialisedWith bridge A) cs)[k]? = some .ok) :
    (verdicts (initialisedWith bridge' B) cs)[k]? = some .ok := by
  rw [verdicts_ok_iff hA] at hok
  rw [verdicts_ok_iff hB]
  obtain ⟨c, nowMs, hc, hplausible, habove⟩ := hok
  exact ⟨c, nowMs, hc, plausible_mono h hplausible, habove⟩

/-- Thresholds that leave less room than the default ones. -/
def tightConfig : SotifPlausibilityConfig where
  maxConfidenceDisagreement := 0.1
  minConfidence := 0.8
  maxCalibrationDrift := 0.1
  maxInputAgeMs := 30

/-- They are at least as strict as the default ones. -/
theorem tightConfig_strict : AtLeastAsStrict tightConfig {} where
  maxConfidenceDisagreement := by decide
  minConfidence := by decide
  maxCalibrationDrift := by decide
  maxInputAgeMs := by decide

/-- `accepted_of_stricter` for two candidates, of which the tighter thresholds leave one. -/
theorem accepted_of_stricter_tightConfig :
    verdicts (initialisedWith { ring := none } tightConfig)
        [(numberedCandidate 1, 135), (numberedCandidate 2, 120)] =
      [.err .kInvalidArgument, .ok] ∧
      (verdicts (initialisedWith { ring := none } {})
        [(numberedCandidate 1, 135), (numberedCandidate 2, 120)])[1]? = some .ok := by
  have htight : verdicts (initialisedWith { ring := none } tightConfig)
      [(numberedCandidate 1, 135), (numberedCandidate 2, 120)] =
        [.err .kInvalidArgument, .ok] := by
    decide
  have hok : (verdicts (initialisedWith { ring := none } tightConfig)
      [(numberedCandidate 1, 135), (numberedCandidate 2, 120)])[1]? = some .ok := by
    rw [htight]
    rfl
  have hinit : InitAccepts tightConfig := by
    unfold InitAccepts
    decide
  have hinit' : InitAccepts {} := by
    unfold InitAccepts
    decide
  exact ⟨htight, accepted_of_stricter hinit hinit' tightConfig_strict _ _ _ 1 hok⟩

end runs

end SotifPlausibility.Sotif
