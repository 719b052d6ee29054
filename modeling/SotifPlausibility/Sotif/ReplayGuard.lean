import SotifPlausibility.Sotif.Verdict

/-!
# What moves the replay guard

Every candidate that gets a verdict moves the guard to its number, if that is larger: an accepted
one as a malformed one. So a single message decides on the numbers of all that follow.

* `verdicts` — the answers of a gate to candidates evaluated one after the other.
* `evaluate_ok_iff` — each answer as a condition on the inputs so far: the candidate is plausible by
  itself, and its number is above all those judged before.
* `malformed_harmless_iff` — when a malformed candidate changes no later answer.
* `recoverable_iff` — when the gate can accept anything again.

Source: `SotifPlausibilityGate.cpp`, `Evaluate` (replay guard) and `CheckFreshnessAndSequence`.
-/

namespace SotifPlausibility.Sotif

open SotifPlausibility.Found SotifPlausibility.Soa

/-! ### Answers over a history -/

section answers

/-- The candidate passes the checks that look at nothing but itself, the clock and the
thresholds. -/
def Plausible (config : SotifPlausibilityConfig) (c : PerceptionCandidateEvent)
    (nowMs : UInt32) : Prop :=
  AllHold (checks config [] c nowMs)

/-- The checks of a candidate are its own and that of its number. -/
theorem allHold_checks_iff {config : SotifPlausibilityConfig} {prior : List UInt32}
    {c : PerceptionCandidateEvent} {nowMs : UInt32} :
    AllHold (checks config prior c nowMs) ↔
      Plausible config c nowMs ∧ ∀ n ∈ prior, n < c.sequenceNum := by
  unfold Plausible AllHold checks freshnessChecks
  simp only [List.cons_append, List.nil_append, List.forall_mem_cons, List.not_mem_nil,
    false_implies, implies_true, true_and]
  tauto

/-- The inputs of candidates evaluated one after the other. -/
def evaluations (cs : List (PerceptionCandidateEvent × UInt32)) : List GateInput :=
  cs.map fun c => .evaluate c.1 c.2

/-- The answers to candidates evaluated one after the other. -/
def verdicts (s : GateSystem) (cs : List (PerceptionCandidateEvent × UInt32)) : List VoidResult :=
  (gateMachine.history s (evaluations cs)).map (·.output.result)

variable {h : List GateEntry} {s : GateSystem}

/-- A gate that is ready accepts or rejects. -/
theorem evaluate_of_ready (inv : GateInv h s) (hinit : s.gate.initialised = true)
    (c : PerceptionCandidateEvent) (nowMs : UInt32) :
    ((s.gate.verdict c nowMs).1 = true ∧ (s.gate.evaluate s.bridge c nowMs).result = .ok) ∨
      ((s.gate.verdict c nowMs).1 = false ∧
        (s.gate.evaluate s.bridge c nowMs).result = .err .kInvalidArgument) := by
  rcases s.gate.evaluate_cases s.bridge c nowMs with ⟨hnot, -⟩ | ⟨-, hv, hout⟩ | ⟨-, hv, hout⟩
  · exact absurd ⟨hinit, inv.ipc⟩ hnot
  · exact Or.inl ⟨hv, congrArg EvaluateOutcome.result hout⟩
  · exact Or.inr ⟨hv, congrArg EvaluateOutcome.result hout⟩

/-- A gate that is ready answers a candidate with a verdict. -/
theorem judged_evaluate (inv : GateInv h s) (hinit : s.gate.initialised = true)
    (c : PerceptionCandidateEvent) (nowMs : UInt32) :
    judged (gateMachine.entry s (.evaluate c nowMs)) = some c := by
  unfold judged
  rcases evaluate_of_ready inv hinit c nowMs with ⟨-, hres⟩ | ⟨-, hres⟩
  · exact if_pos (Or.inl hres)
  · exact if_pos (Or.inr hres)

/-- An evaluation leaves the gate initialised, with its thresholds. -/
theorem evaluate_frame (c : PerceptionCandidateEvent) (nowMs : UInt32) :
    (gateStep s (.evaluate c nowMs)).2.gate.initialised = s.gate.initialised ∧
      (gateStep s (.evaluate c nowMs)).2.gate.config = s.gate.config := by
  show (s.gate.evaluate s.bridge c nowMs).gate.initialised = _ ∧
    (s.gate.evaluate s.bridge c nowMs).gate.config = _
  rcases s.gate.evaluate_cases s.bridge c nowMs with ⟨-, -, hgate, -⟩ | ⟨-, -, hout⟩ | ⟨-, -, hout⟩
  · rw [hgate]
    exact ⟨rfl, rfl⟩
  · rw [hout]
    exact ⟨SotifPlausibilityGate.advance_initialised, SotifPlausibilityGate.advance_config⟩
  · rw [hout]
    exact ⟨SotifPlausibilityGate.advance_initialised, SotifPlausibilityGate.advance_config⟩

/-- **What evaluations leave**: the gate stays initialised with its thresholds, and the numbers of
all candidates are added to those judged. -/
theorem evaluations_spec (inv : GateInv h s) (hinit : s.gate.initialised = true)
    (cs : List (PerceptionCandidateEvent × UInt32)) :
    GateInv (h ++ gateMachine.history s (evaluations cs)) (gateMachine.final s (evaluations cs)) ∧
      (gateMachine.final s (evaluations cs)).gate.initialised = true ∧
      (gateMachine.final s (evaluations cs)).gate.config = s.gate.config ∧
      judgedNumbers (h ++ gateMachine.history s (evaluations cs)) =
        judgedNumbers h ++ cs.map (·.1.sequenceNum) := by
  induction cs generalizing h s with
  | nil => simpa [evaluations] using ⟨inv, hinit⟩
  | cons c cs ih =>
      obtain ⟨c, nowMs⟩ := c
      obtain ⟨hinit', hconfig'⟩ := @evaluate_frame s c nowMs
      have hnumbers := judgedNumbers_concat h (gateMachine.entry s (.evaluate c nowMs))
      rw [judged_evaluate inv hinit] at hnumbers
      obtain ⟨invRest, hinitRest, hconfigRest, hnumbersRest⟩ :=
        ih (gateInv_step inv (.evaluate c nowMs)) (hinit'.trans hinit)
      have hhistory : h ++ gateMachine.history s (evaluations ((c, nowMs) :: cs)) =
          h ++ [gateMachine.entry s (.evaluate c nowMs)] ++
            gateMachine.history (gateMachine.step s (.evaluate c nowMs)).2 (evaluations cs) := by
        rw [List.append_assoc]
        rfl
      rw [hhistory]
      refine ⟨invRest, hinitRest, hconfigRest.trans hconfig', ?_⟩
      rw [hnumbersRest, hnumbers]
      simp

/-- **An answer, by the inputs so far.** -/
theorem evaluate_ok_iff (inv : GateInv h s) (hinit : s.gate.initialised = true)
    (c : PerceptionCandidateEvent) (nowMs : UInt32) :
    (s.gate.evaluate s.bridge c nowMs).result = .ok ↔
      Plausible s.gate.config c nowMs ∧ ∀ n ∈ judgedNumbers h, n < c.sequenceNum := by
  have hdec : Decides (checks s.gate.config (judgedNumbers h) c nowMs) (s.gate.verdict c nowMs) :=
    decides_verdict (inv.valid hinit) inv.guard
  rw [← allHold_checks_iff, ← hdec.flag_iff]
  rcases evaluate_of_ready inv hinit c nowMs with ⟨hv, hres⟩ | ⟨hv, hres⟩
  · simp [hv, hres]
  · simp [hv, hres]

/-- Only a gate that is ready rejects. -/
theorem initialised_of_rejects {c : PerceptionCandidateEvent} {nowMs : UInt32}
    (hres : (s.gate.evaluate s.bridge c nowMs).result = .err .kInvalidArgument) :
    s.gate.initialised = true := by
  rcases s.gate.evaluate_cases s.bridge c nowMs with
    ⟨-, herr, -⟩ | ⟨hready, -⟩ | ⟨hready, -⟩
  · rcases herr with herr | herr <;> simp [herr] at hres
  · exact hready.1
  · exact hready.1

end answers

/-! ### Malformed candidates -/

section malformed

/-- Two gates answer candidates alike when they do so at each position. -/
theorem verdicts_eq_iff (s t : GateSystem) (cs : List (PerceptionCandidateEvent × UInt32)) :
    verdicts s cs = verdicts t cs ↔
      ∀ pre c nowMs post, cs = pre ++ (c, nowMs) :: post →
        let s' := gateMachine.final s (evaluations pre)
        let t' := gateMachine.final t (evaluations pre)
        (s'.gate.evaluate s'.bridge c nowMs).result =
          (t'.gate.evaluate t'.bridge c nowMs).result := by
  unfold verdicts
  rw [Machine.map_history_eq_iff]
  constructor
  · rintro hall pre c nowMs post rfl
    exact hall (evaluations pre) (.evaluate c nowMs) (evaluations post) (by simp [evaluations])
  · intro hall pre' i post' hsplit
    obtain ⟨pre, rest, rfl, rfl, hrest⟩ := List.map_eq_append_iff.mp hsplit
    obtain ⟨⟨c, nowMs⟩, post, rfl, rfl, -⟩ := List.map_eq_cons_iff.mp hrest
    exact hall pre c nowMs post rfl

variable {h h' : List GateEntry} {s s' : GateSystem}

/-- At one position, two gates with the same thresholds answer alike, where the one has judged one
number more, exactly when that number does not stand between. -/
theorem result_eq_iff (inv : GateInv h s) (inv' : GateInv h' s')
    (hinit : s.gate.initialised = true) (hinit' : s'.gate.initialised = true)
    (hconfig : s'.gate.config = s.gate.config) {number : UInt32}
    (hnumbers : ∀ n, n ∈ judgedNumbers h' ↔ n ∈ judgedNumbers h ∨ n = number)
    (c : PerceptionCandidateEvent) (nowMs : UInt32) :
    (s'.gate.evaluate s'.bridge c nowMs).result = (s.gate.evaluate s.bridge c nowMs).result ↔
      (Plausible s.gate.config c nowMs → (∀ n ∈ judgedNumbers h, n < c.sequenceNum) →
        number < c.sequenceNum) := by
  have hok := evaluate_ok_iff inv hinit c nowMs
  have hok' := evaluate_ok_iff inv' hinit' c nowMs
  have hall : (∀ n ∈ judgedNumbers h', n < c.sequenceNum) ↔
      (∀ n ∈ judgedNumbers h, n < c.sequenceNum) ∧ number < c.sequenceNum := by
    simp only [hnumbers, or_imp, forall_and, forall_eq]
  rw [hconfig, hall] at hok'
  constructor
  · intro heq hself habove
    exact (hok'.mp (heq.trans (hok.mpr ⟨hself, habove⟩))).2.2
  · intro himp
    rcases evaluate_of_ready inv hinit c nowMs with ⟨-, hres⟩ | ⟨-, hres⟩
    · obtain ⟨hself, habove⟩ := hok.mp hres
      rw [hres]
      exact hok'.mpr ⟨hself, habove, himp hself habove⟩
    · rcases evaluate_of_ready inv' hinit' c nowMs with ⟨-, hres'⟩ | ⟨-, hres'⟩
      · obtain ⟨hself, habove, -⟩ := hok'.mp hres'
        exact absurd ((hok.mpr ⟨hself, habove⟩).symm.trans hres) (by simp)
      · rw [hres, hres']

/-- **When a malformed candidate is harmless.** In every state a run reaches, let a candidate be
rejected there as invalid input. The candidates evaluated after it get the answers they would get
without it exactly when each of them that is plausible by itself, and whose number is above all
judged before, has a number above that of the malformed one too. -/
theorem malformed_harmless_iff (bridge : IpcBridge) (is : List GateInput)
    (m : PerceptionCandidateEvent) (mNowMs : UInt32)
    (cs : List (PerceptionCandidateEvent × UInt32)) :
    let h := gateMachine.history (GateSystem.start bridge) is
    let s := gateMachine.final (GateSystem.start bridge) is
    let out := s.gate.evaluate s.bridge m mNowMs
    out.result = .err .kInvalidArgument → out.gate.getLastRejectReason = .kInvalidInput →
      (verdicts { gate := out.gate, bridge := out.bridge } cs = verdicts s cs ↔
        ∀ pre c nowMs post, cs = pre ++ (c, nowMs) :: post →
          Plausible s.gate.config c nowMs →
          (∀ n ∈ judgedNumbers h ++ pre.map (·.1.sequenceNum), n < c.sequenceNum) →
            m.sequenceNum < c.sequenceNum) := by
  intro h s out hres _
  have inv : GateInv h s := gateInv_run bridge is
  have hinit : s.gate.initialised = true := initialised_of_rejects hres
  -- the state after the malformed candidate, and its history
  have invM := gateInv_step inv (.evaluate m mNowMs)
  obtain ⟨hinitM, hconfigM⟩ := @evaluate_frame s m mNowMs
  have hnumbersM := judgedNumbers_concat h (gateMachine.entry s (.evaluate m mNowMs))
  rw [judged_evaluate inv hinit] at hnumbersM
  rw [verdicts_eq_iff]
  -- position by position
  refine forall_congr' fun pre => forall_congr' fun c => forall_congr' fun nowMs =>
    forall_congr' fun post => imp_congr_right fun _ => ?_
  obtain ⟨invW, hinitW, hconfigW, hnumbersW⟩ := evaluations_spec inv hinit pre
  obtain ⟨invP, hinitP, hconfigP, hnumbersP⟩ := evaluations_spec invM (hinitM.trans hinit) pre
  have hmem : ∀ n,
      n ∈ judgedNumbers (h ++ [gateMachine.entry s (.evaluate m mNowMs)] ++
        gateMachine.history (gateMachine.step s (.evaluate m mNowMs)).2 (evaluations pre)) ↔
      n ∈ judgedNumbers (h ++ gateMachine.history s (evaluations pre)) ∨ n = m.sequenceNum := by
    intro n
    rw [hnumbersP, hnumbersM, hnumbersW]
    simp only [Option.map_some, Option.toList_some, List.mem_append, List.mem_singleton]
    tauto
  have hpos := result_eq_iff invW invP hinitW hinitP
    ((hconfigP.trans hconfigM).trans hconfigW.symm) hmem c nowMs
  rw [hconfigW, hnumbersW] at hpos
  exact hpos

/-- A nominal candidate with a number. -/
def numberedCandidate (sequenceNum : UInt32) : PerceptionCandidateEvent :=
  { nominalCandidate 1.5 with sequenceNum }

/-- A candidate with a number and a time stamp that is still to come at time 120. -/
def futureCandidate (sequenceNum : UInt32) : PerceptionCandidateEvent :=
  { numberedCandidate sequenceNum with timestampMs := 1000 }

/-- A new gate after `Init` and a malformed candidate with number 5. -/
def misledGate : GateSystem :=
  gateMachine.final initialisedGate [.evaluate (futureCandidate 5) 120]

/-- `malformed_harmless_iff` for a malformed candidate with number 5 and a later one with
number 9. -/
theorem malformed_harmless_above :
    verdicts misledGate [(numberedCandidate 9, 120)] =
      verdicts initialisedGate [(numberedCandidate 9, 120)] := by
  refine (malformed_harmless_iff { ring := none } [.init {}] (futureCandidate 5) 120
    [(numberedCandidate 9, 120)] (by decide) (by decide)).mpr ?_
  intro pre c nowMs post hsplit _ _
  have hmem : (c, nowMs) ∈ [(numberedCandidate 9, (120 : UInt32))] := by
    rw [hsplit]
    simp
  obtain ⟨rfl, -⟩ := Prod.mk.inj (List.mem_singleton.mp hmem)
  decide

/-- A malformed candidate with number 5 is rejected as invalid input. After it a nominal candidate
with number 1 is rejected, which would have been accepted. -/
theorem malformed_poisons :
    misledGate.gate.getLastRejectReason = .kInvalidInput ∧
      verdicts misledGate [(numberedCandidate 1, 120)] = [.err .kInvalidArgument] ∧
      verdicts initialisedGate [(numberedCandidate 1, 120)] = [.ok] :=
  ⟨by decide, by decide, by decide⟩

end malformed

/-! ### The end of the numbers -/

section exhausted

/-- The largest number of a candidate. -/
def maxSequenceNum : UInt32 := 0xFFFFFFFF

/-- Every other number is below it. -/
theorem lt_maxSequenceNum {n : UInt32} (hne : n ≠ maxSequenceNum) : n < maxSequenceNum := by
  have hlt := n.toNat_lt
  have hne' : n.toNat ≠ maxSequenceNum.toNat := mt UInt32.toNat_inj.mp hne
  have hmax : maxSequenceNum.toNat = 2 ^ 32 - 1 := rfl
  apply UInt32.lt_iff_toNat_lt.mpr
  omega

/-- The largest number is above none. -/
theorem not_maxSequenceNum_lt (n : UInt32) : ¬ maxSequenceNum < n := by
  have hlt := n.toNat_lt
  have hmax : maxSequenceNum.toNat = 2 ^ 32 - 1 := rfl
  rw [UInt32.lt_iff_toNat_lt]
  omega

/-- The nominal candidate with the largest number is plausible at time 120. -/
theorem plausible_numberedCandidate : Plausible {} (numberedCandidate maxSequenceNum) 120 :=
  ((evaluate_ok_iff (gateInv_run { ring := none } [.init {}]) rfl _ _).mp (by decide)).1

/-- `Init` and then a candidate: the answer, by the inputs so far. -/
theorem init_evaluate_ok_iff {h : List GateEntry} {s : GateSystem} (inv : GateInv h s)
    (config : SotifPlausibilityConfig) (c : PerceptionCandidateEvent) (nowMs : UInt32) :
    ((s.gate.init config).1 = .ok ∧
        ((s.gate.init config).2.evaluate s.bridge c nowMs).result = .ok) ↔
      config.Valid ∧ Plausible config c nowMs ∧ ∀ n ∈ judgedNumbers h, n < c.sequenceNum := by
  have hnumbers : judgedNumbers (h ++ [gateMachine.entry s (.init config)]) = judgedNumbers h :=
    judgedNumbers_concat_none (judged_eq_none rfl)
  have invI : GateInv (h ++ [gateMachine.entry s (.init config)])
      { s with gate := (s.gate.init config).2 } := gateInv_step inv (.init config)
  by_cases hv : config.Valid
  · have hgate : s.gate.init config = (.ok, { s.gate with config, initialised := true }) := by
      simp [SotifPlausibilityGate.init, inv.ipc, hv]
    rw [hgate] at invI ⊢
    have hok := evaluate_ok_iff invI rfl c nowMs
    rw [hnumbers] at hok
    constructor
    · rintro ⟨-, hres⟩
      exact ⟨hv, hok.mp hres⟩
    · rintro ⟨-, hnew⟩
      exact ⟨rfl, hok.mpr hnew⟩
  · have hgate : s.gate.init config = (.err .kInvalidArgument, s.gate) := by
      simp [SotifPlausibilityGate.init, inv.ipc, hv]
    rw [hgate]
    constructor
    · rintro ⟨herr, -⟩
      exact absurd herr (by simp)
    · rintro ⟨hvalid, -⟩
      exact absurd hvalid hv

/-- **When the gate can accept again.** In every state a run reaches, some thresholds and some
candidate make `Init` and then `Evaluate` succeed exactly when no candidate with the largest number
was judged in the run. The guard only moves forward, and `Init` leaves it where it is. -/
theorem recoverable_iff (bridge : IpcBridge) (is : List GateInput) :
    let h := gateMachine.history (GateSystem.start bridge) is
    let s := gateMachine.final (GateSystem.start bridge) is
    (∃ config c nowMs, (s.gate.init config).1 = .ok ∧
        ((s.gate.init config).2.evaluate s.bridge c nowMs).result = .ok) ↔
      maxSequenceNum ∉ judgedNumbers h := by
  intro h s
  have inv : GateInv h s := gateInv_run bridge is
  simp only [init_evaluate_ok_iff inv]
  constructor
  · rintro ⟨config, c, nowMs, -, -, habove⟩ hmem
    exact not_maxSequenceNum_lt _ (habove _ hmem)
  · intro hnot
    refine ⟨{}, numberedCandidate maxSequenceNum, 120, by decide, plausible_numberedCandidate, ?_⟩
    intro n hn
    apply lt_maxSequenceNum
    rintro rfl
    exact hnot hn

/-- A new gate after `Init` and a malformed candidate with the largest number. -/
def exhaustedGate : GateSystem :=
  gateMachine.final initialisedGate [.evaluate (futureCandidate maxSequenceNum) 120]

/-- One malformed candidate with the largest number, rejected as invalid input, and no `Init` and no
candidate can make the gate accept again. -/
theorem locked_out :
    verdicts initialisedGate [(futureCandidate maxSequenceNum, 120)] = [.err .kInvalidArgument] ∧
      exhaustedGate.gate.getLastRejectReason = .kInvalidInput ∧
      ¬ ∃ config c nowMs, (exhaustedGate.gate.init config).1 = .ok ∧
        ((exhaustedGate.gate.init config).2.evaluate exhaustedGate.bridge c nowMs).result =
          .ok := by
  refine ⟨by decide, by decide, ?_⟩
  have inv := gateInv_run { ring := none }
    [.init {}, .evaluate (futureCandidate maxSequenceNum) 120]
  rintro ⟨config, c, nowMs, hok⟩
  obtain ⟨-, -, habove⟩ := (init_evaluate_ok_iff inv config c nowMs).mp hok
  exact not_maxSequenceNum_lt _ (habove maxSequenceNum (by decide))

end exhausted

end SotifPlausibility.Sotif
