import SotifPlausibility.Sotif.Verdict

/-!
# The evidence log of the gate

The counters of the gate and its last reject reason are evidence of what it decided. They are kept
on different branches of its operations and have to agree all the same.

* `verdictLog`, `gateSends`, `lastValidConfig` — the verdicts of a run, the sends the gate made, the
  last valid thresholds. They read the inputs and outputs of a history.
* `logStep` — what a step can be to the log: an acceptance, a rejection, an `Init` that succeeds, or
  nothing.
* `LogInv` — the gate's fields are read off the log; `logInv_step` — every step keeps them so.
* `NoVerdict` — the calls that reach no verdict; `evidence_log` — the evidence of every run, for a
  gate with or without a bridge pointer.

Source: `SotifPlausibilityGate.cpp`, `Init`, `EscalateToSafeState`, `Evaluate`, `IngestSoaEvent` and
the getters.
-/

namespace SotifPlausibility.Sotif

open SotifPlausibility.Found SotifPlausibility.Soa

/-! ### The log -/

/-- The verdict of a step, if it gave one: whether it accepted. -/
def verdictOf (e : GateEntry) : Option Bool :=
  (judged e).map fun _ => decide (e.output.result = .ok)

/-- The verdicts of a run, oldest first. -/
def verdictLog (h : List GateEntry) : List Bool := h.filterMap verdictOf

/-- The input is a call of the gate. -/
def GateInput.isGateCall : GateInput → Bool
  | .init _ => true
  | .evaluate _ _ => true
  | .ingestSoaEvent _ _ => true
  | _ => false

/-- The send the gate made in a step. -/
def gateSend (e : GateEntry) : Option IpcSend :=
  if e.input.isGateCall = true then e.output.sent else none

/-- The sends the gate made in a run, oldest first. -/
def gateSends (h : List GateEntry) : List IpcSend := h.filterMap gateSend

/-- The thresholds of a call of `Init`, if they are valid. -/
def validConfig (e : GateEntry) : Option SotifPlausibilityConfig :=
  match e.input with
  | .init config => if config.Valid then some config else none
  | _ => none

/-- The last valid thresholds `Init` was called with. -/
def lastValidConfig (h : List GateEntry) : Option SotifPlausibilityConfig :=
  (h.filterMap validConfig).getLast?

/-! ### What a step is to the log -/

section step

/-- What a step can be to the log. -/
inductive LogStep (s : GateSystem) (i : GateInput) : Prop where
  /-- A candidate is accepted, without a send. -/
  | accept (c : PerceptionCandidateEvent)
      (verdict : verdictOf (gateMachine.entry s i) = some true)
      (send : gateSend (gateMachine.entry s i) = none)
      (valid : validConfig (gateMachine.entry s i) = none)
      (taken : initConfig (gateMachine.entry s i) = none)
      (gate : (gateStep s i).2.gate = s.gate.accepted c)
  /-- A candidate is rejected for a reason, with one send. -/
  | reject (c : PerceptionCandidateEvent) (reason : SotifRejectReason) (ne : reason ≠ .kNone)
      (verdict : verdictOf (gateMachine.entry s i) = some false)
      (send : (gateSend (gateMachine.entry s i)).isSome = true)
      (valid : validConfig (gateMachine.entry s i) = none)
      (taken : initConfig (gateMachine.entry s i) = none)
      (gate : (gateStep s i).2.gate = s.gate.rejected c reason)
  /-- `Init` takes its thresholds. -/
  | init (config : SotifPlausibilityConfig) (input : i = .init config) (ipc : s.gate.ipc = true)
      (valid : config.Valid)
      (taken : initConfig (gateMachine.entry s i) = some config)
      (after : (gateStep s i).2 = { s with gate := { s.gate with config, initialised := true } })
  /-- Nothing happens to the gate, and nothing at all in a call of the gate. -/
  | silent (verdict : verdictOf (gateMachine.entry s i) = none)
      (send : gateSend (gateMachine.entry s i) = none)
      (valid : s.gate.ipc = true → validConfig (gateMachine.entry s i) = none)
      (taken : initConfig (gateMachine.entry s i) = none)
      (gate : (gateStep s i).2.gate = s.gate)
      (call : i.isGateCall = true → (gateStep s i).2 = s)

variable (s : GateSystem)

/-- An input that brings no candidate gets no verdict. -/
theorem verdictOf_eq_none {e : GateEntry} (he : e.input.candidate = none) : verdictOf e = none := by
  unfold verdictOf
  rw [judged_eq_none he]
  rfl

/-- `Init` takes its thresholds, or nothing happens. -/
theorem logStep_init (config : SotifPlausibilityConfig) : LogStep s (.init config) := by
  rcases s.gate.init_cases config with ⟨⟨hipc, hvalid⟩, hinit⟩ | ⟨hnot, herr, hgate⟩
  · apply LogStep.init config rfl hipc hvalid
    · simp [initConfig, gateStep, hinit]
    · simp [gateStep, hinit]
  · have hsame : (gateStep s (.init config)).2 = s := by
      simp only [gateStep, hgate]
    apply LogStep.silent (verdictOf_eq_none rfl) rfl
    · intro hipc
      exact if_neg fun hvalid => hnot ⟨hipc, hvalid⟩
    · exact if_neg herr
    · rw [hsame]
    · intro _
      exact hsame

/-- A candidate comes with a call of the gate that is no `Init`. -/
theorem call_of_candidate {i : GateInput} {c : PerceptionCandidateEvent}
    (hcand : i.candidate = some c) :
    i.isGateCall = true ∧ validConfig (gateMachine.entry s i) = none := by
  cases i with
  | evaluate _ _ => exact ⟨rfl, rfl⟩
  | ingestSoaEvent _ _ => exact ⟨rfl, rfl⟩
  | _ => exact absurd hcand (by simp [GateInput.candidate])

/-- A candidate is accepted or rejected, or nothing happens. -/
theorem logStep_candidate {i : GateInput} {c : PerceptionCandidateEvent}
    (hcand : i.candidate = some c) : LogStep s i := by
  obtain ⟨hcall, hvalid⟩ := call_of_candidate s hcand
  obtain ⟨nowMs, htaken, hstep⟩ := gateStep_of_candidate s hcand
  have hsend : gateSend (gateMachine.entry s i) = (s.gate.evaluate s.bridge c nowMs).sent := by
    simp [gateSend, hcall, hstep]
  rcases s.gate.evaluate_cases s.bridge c nowMs with
    ⟨-, hres, hgate, hbridge, hsent⟩ | ⟨-, -, hout⟩ | ⟨-, hv, hout⟩
  · have hsame : (gateStep s i).2 = s := by
      rw [hstep, hgate, hbridge]
    have hverdict : verdictOf (gateMachine.entry s i) = none := by
      rcases hres with hres | hres <;> simp [verdictOf, judged, hstep, hres]
    exact .silent hverdict (hsend.trans hsent) (fun _ => hvalid) htaken (by rw [hsame])
      fun _ => hsame
  · apply LogStep.accept c _ _ hvalid htaken
    · rw [hstep, hout]
    · simp [verdictOf, judged, hstep, hout, hcand]
    · rw [hsend, hout]
  · apply LogStep.reject c (s.gate.verdict c nowMs).2 (verdict_rejected hv) _ _ hvalid htaken
    · rw [hstep, hout]
    · simp [verdictOf, judged, hstep, hout, hcand]
    · rw [hsend, hout]
      rfl

/-- **Every step is one of these to the log.** -/
theorem logStep (i : GateInput) : LogStep s i := by
  cases i with
  | init config => exact logStep_init s config
  | evaluate c nowMs => exact logStep_candidate s rfl
  | ingestSoaEvent event nowMs =>
      by_cases hlen : event.payloadLen = sizeofPerceptionCandidateEvent
      · have hcand : (GateInput.ingestSoaEvent event nowMs).candidate =
            some (PerceptionCandidateEvent.ofEvent event) := if_pos hlen
        exact logStep_candidate s hcand
      · have hingest : s.gate.ingestSoaEvent s.bridge event nowMs =
            { result := .err .kInvalidArgument, gate := s.gate, bridge := s.bridge } :=
          if_pos hlen
        have hsame : (gateStep s (.ingestSoaEvent event nowMs)).2 = s := by
          simp only [gateStep, hingest]
        have hcand : (GateInput.ingestSoaEvent event nowMs).candidate = none := if_neg hlen
        have hsend : gateSend (gateMachine.entry s (.ingestSoaEvent event nowMs)) = none := by
          simp [gateSend, gateStep, hingest]
        apply LogStep.silent (verdictOf_eq_none hcand) hsend (fun _ => rfl) rfl
        · rw [hsame]
        · intro _
          exact hsame
  | bridgeInit =>
      exact .silent (verdictOf_eq_none rfl) rfl (fun _ => rfl) rfl rfl (absurd · Bool.false_ne_true)
  | foreignSend event =>
      exact .silent (verdictOf_eq_none rfl) rfl (fun _ => rfl) rfl rfl (absurd · Bool.false_ne_true)
  | consumerPop =>
      exact .silent (verdictOf_eq_none rfl) rfl (fun _ => rfl) rfl rfl (absurd · Bool.false_ne_true)

end step

/-! ### The fields and the log -/

section evidence

/-- The evidence in the gate's fields is that of a log of verdicts. -/
structure Evidence (gate : SotifPlausibilityGate) (log : List Bool) : Prop where
  acceptCount : gate.acceptCount = .ofNat (log.count true)
  rejectCount : gate.rejectCount = .ofNat (log.count false)
  escalationSequence : gate.escalationSequence = .ofNat (log.count false)
  reason : gate.lastRejectReason = .kNone ↔ log.getLast? ≠ some false

variable {gate : SotifPlausibilityGate} {log : List Bool}

/-- An acceptance is counted and logged. -/
theorem evidence_accepted (ev : Evidence gate log) (c : PerceptionCandidateEvent) :
    Evidence (gate.accepted c) (log ++ [true]) where
  acceptCount := by
    rw [List.count_append, UInt32.ofNat_add, ← ev.acceptCount]
    simp
  rejectCount := by
    rw [List.count_append]
    simp [ev.rejectCount]
  escalationSequence := by
    rw [List.count_append]
    simp [ev.escalationSequence]
  reason := by simp

/-- A rejection is counted and logged, with its reason. -/
theorem evidence_rejected (ev : Evidence gate log) (c : PerceptionCandidateEvent)
    {reason : SotifRejectReason} (hne : reason ≠ .kNone) :
    Evidence (gate.rejected c reason) (log ++ [false]) where
  acceptCount := by
    rw [List.count_append]
    simp [ev.acceptCount]
  rejectCount := by
    rw [List.count_append, UInt32.ofNat_add, ← ev.rejectCount]
    simp
  escalationSequence := by
    rw [List.count_append, UInt32.ofNat_add, ← ev.escalationSequence]
    simp
  reason := by simp [hne]

end evidence

section invariant

/-- The gate's fields agree with the history of the run. -/
structure LogInv (ipc : Bool) (h : List GateEntry) (s : GateSystem) : Prop where
  ipc : s.gate.ipc = ipc
  evidence : Evidence s.gate (verdictLog h)
  sends : (gateSends h).length = (verdictLog h).count false
  initialised : s.gate.initialised = true ↔ lastConfig h ≠ none
  ready : s.gate.initialised = true →
    s.gate.ipc = true ∧ lastValidConfig h = some s.gate.config

variable {ipc : Bool} {h : List GateEntry} {s : GateSystem} {e : GateEntry}

/-- The verdicts, by the last step. -/
theorem verdictLog_concat : verdictLog (h ++ [e]) = verdictLog h ++ (verdictOf e).toList :=
  filterMap_concat verdictOf h e

/-- The gate's sends, by the last step. -/
theorem gateSends_concat : gateSends (h ++ [e]) = gateSends h ++ (gateSend e).toList :=
  filterMap_concat gateSend h e

/-- The thresholds in force, by the last step. -/
theorem lastValidConfig_concat :
    lastValidConfig (h ++ [e]) = (validConfig e).or (lastValidConfig h) :=
  getLast?_filterMap_concat validConfig h e

/-- A step without a verdict and without a send adds nothing to the log. -/
theorem log_concat_none (hverdict : verdictOf e = none) (hsend : gateSend e = none) :
    verdictLog (h ++ [e]) = verdictLog h ∧ gateSends (h ++ [e]) = gateSends h := by
  rw [verdictLog_concat, gateSends_concat, hverdict, hsend]
  exact ⟨List.append_nil _, List.append_nil _⟩

/-- A new gate has an empty log. -/
theorem logInv_start (ipc : Bool) (bridge : IpcBridge) :
    LogInv ipc [] { gate := { ipc }, bridge } where
  ipc := rfl
  evidence :=
    { acceptCount := rfl
      rejectCount := rfl
      escalationSequence := rfl
      reason := by simp [verdictLog] }
  sends := rfl
  initialised := by simp [lastConfig]
  ready := fun hinit => absurd hinit Bool.false_ne_true

/-- **One step keeps the fields and the history in agreement.** -/
theorem logInv_step (inv : LogInv ipc h s) (i : GateInput) :
    LogInv ipc (h ++ [gateMachine.entry s i]) (gateStep s i).2 := by
  cases logStep s i with
  | accept c hverdict hsend hvalid htaken hgate =>
      have hlog : verdictLog (h ++ [gateMachine.entry s i]) = verdictLog h ++ [true] := by
        rw [verdictLog_concat, hverdict]
        rfl
      refine ⟨?_, ?_, ?_, ?_, ?_⟩
      · simpa [hgate] using inv.ipc
      · rw [hgate, hlog]
        exact evidence_accepted inv.evidence c
      · rw [gateSends_concat, hsend, hlog, List.count_append]
        simp [inv.sends]
      · rw [hgate, lastConfig_concat, htaken]
        simpa using inv.initialised
      · rw [hgate, lastValidConfig_concat, hvalid]
        simpa using inv.ready
  | reject c reason hne hverdict hsend hvalid htaken hgate =>
      have hlog : verdictLog (h ++ [gateMachine.entry s i]) = verdictLog h ++ [false] := by
        rw [verdictLog_concat, hverdict]
        rfl
      obtain ⟨send, hsend⟩ := Option.isSome_iff_exists.mp hsend
      refine ⟨?_, ?_, ?_, ?_, ?_⟩
      · simpa [hgate] using inv.ipc
      · rw [hgate, hlog]
        exact evidence_rejected inv.evidence c hne
      · rw [gateSends_concat, hsend, hlog, List.count_append]
        simp [inv.sends]
      · rw [hgate, lastConfig_concat, htaken]
        simpa using inv.initialised
      · rw [hgate, lastValidConfig_concat, hvalid]
        simpa using inv.ready
  | init config hinput hipc hvalid htaken hafter =>
      subst hinput
      obtain ⟨hlog, hsends⟩ := log_concat_none (h := h)
        (e := gateMachine.entry s (.init config)) (verdictOf_eq_none rfl) rfl
      have hvalid' : validConfig (gateMachine.entry s (.init config)) = some config :=
        if_pos hvalid
      obtain ⟨haccept, hreject, hescalation, hreason⟩ := inv.evidence
      rw [hafter]
      refine ⟨?_, ?_, ?_, ?_, ?_⟩
      · exact inv.ipc
      · rw [hlog]
        exact ⟨haccept, hreject, hescalation, hreason⟩
      · rw [hlog, hsends]
        exact inv.sends
      · rw [lastConfig_concat, htaken]
        simp
      · intro _
        rw [lastValidConfig_concat, hvalid']
        exact ⟨hipc, rfl⟩
  | silent hverdict hsend hvalid htaken hgate hcall =>
      obtain ⟨hlog, hsends⟩ := log_concat_none (h := h) hverdict hsend
      refine ⟨?_, ?_, ?_, ?_, ?_⟩
      · rw [hgate]
        exact inv.ipc
      · rw [hlog, hgate]
        exact inv.evidence
      · rw [hlog, hsends]
        exact inv.sends
      · rw [hgate, lastConfig_concat, htaken]
        exact inv.initialised
      · rw [hgate]
        intro hinit
        obtain ⟨hipc, hlast⟩ := inv.ready hinit
        rw [lastValidConfig_concat, hvalid hipc]
        exact ⟨hipc, hlast⟩

/-- Every run keeps the invariant. -/
theorem logInv_run (ipc : Bool) (bridge : IpcBridge) (is : List GateInput) :
    LogInv ipc (gateMachine.history { gate := { ipc }, bridge } is)
      (gateMachine.final { gate := { ipc }, bridge } is) :=
  gateMachine.run_induction (logInv_start ipc bridge) (fun _ _ i inv => logInv_step inv i) is

end invariant

/-! ### Calls without a verdict -/

/-- The calls that reach no verdict after a run: a candidate before a successful `Init`, an event of
the wrong length, an `Init` without a bridge pointer or with thresholds out of range. -/
def NoVerdict (ipc : Bool) (h : List GateEntry) : GateInput → Prop
  | .init config => ipc = false ∨ ¬ config.Valid
  | .evaluate _ _ => lastConfig h = none
  | .ingestSoaEvent event _ =>
      event.payloadLen ≠ sizeofPerceptionCandidateEvent ∨ lastConfig h = none
  | _ => False

section noVerdict

variable {ipc : Bool} {h : List GateEntry} {s : GateSystem}

/-- A candidate gets no verdict exactly when the gate is not ready. -/
theorem verdictOf_candidate {i : GateInput} {c : PerceptionCandidateEvent}
    (hcand : i.candidate = some c) :
    verdictOf (gateMachine.entry s i) = none ↔
      ¬ (s.gate.initialised = true ∧ s.gate.ipc = true) := by
  obtain ⟨nowMs, -, hstep⟩ := gateStep_of_candidate s hcand
  rcases s.gate.evaluate_cases s.bridge c nowMs with
    ⟨hnot, hres, -⟩ | ⟨hready, -, hout⟩ | ⟨hready, -, hout⟩
  · apply iff_of_true _ hnot
    rcases hres with hres | hres <;> simp [verdictOf, judged, hstep, hres]
  · apply iff_of_false _ (not_not.mpr hready)
    simp [verdictOf, judged, hstep, hout, hcand]
  · apply iff_of_false _ (not_not.mpr hready)
    simp [verdictOf, judged, hstep, hout, hcand]

/-- After a run, the gate is not ready exactly when no `Init` succeeded. -/
theorem not_ready_iff (inv : LogInv ipc h s) :
    ¬ (s.gate.initialised = true ∧ s.gate.ipc = true) ↔ lastConfig h = none := by
  rw [← not_iff_not, not_not]
  constructor
  · intro hready
    exact inv.initialised.mp hready.1
  · intro hlast
    have hinit := inv.initialised.mpr hlast
    exact ⟨hinit, (inv.ready hinit).1⟩

/-- `Init` fails exactly without a bridge pointer or with thresholds out of range. -/
theorem initConfig_eq_none_iff (config : SotifPlausibilityConfig) :
    initConfig (gateMachine.entry s (.init config)) = none ↔
      s.gate.ipc = false ∨ ¬ config.Valid := by
  have hnot_iff : s.gate.ipc = false ∨ ¬ config.Valid ↔ ¬ (s.gate.ipc = true ∧ config.Valid) := by
    rw [not_and_or, Bool.not_eq_true]
  rw [hnot_iff]
  rcases s.gate.init_cases config with ⟨hready, hinit⟩ | ⟨hnot, herr, -⟩
  · apply iff_of_false _ (not_not.mpr hready)
    simp [initConfig, gateStep, hinit]
  · exact iff_of_true (if_neg herr) hnot

/-- **The calls without a verdict**: these are the calls of the gate that give none and are no
successful `Init`. -/
theorem noVerdict_iff (inv : LogInv ipc h s) (i : GateInput) :
    NoVerdict ipc h i ↔
      i.isGateCall = true ∧ verdictOf (gateMachine.entry s i) = none ∧
        initConfig (gateMachine.entry s i) = none := by
  cases i with
  | init config =>
      have hverdict : verdictOf (gateMachine.entry s (.init config)) = none :=
        verdictOf_eq_none rfl
      rw [initConfig_eq_none_iff, inv.ipc]
      simp [NoVerdict, GateInput.isGateCall, hverdict]
  | evaluate c nowMs =>
      rw [verdictOf_candidate rfl, not_ready_iff inv]
      simp [NoVerdict, GateInput.isGateCall, initConfig]
  | ingestSoaEvent event nowMs =>
      by_cases hlen : event.payloadLen = sizeofPerceptionCandidateEvent
      · have hcand : (GateInput.ingestSoaEvent event nowMs).candidate =
            some (PerceptionCandidateEvent.ofEvent event) := if_pos hlen
        rw [verdictOf_candidate hcand, not_ready_iff inv]
        simp [NoVerdict, GateInput.isGateCall, initConfig, hlen]
      · have hcand : (GateInput.ingestSoaEvent event nowMs).candidate = none := if_neg hlen
        have hverdict : verdictOf (gateMachine.entry s (.ingestSoaEvent event nowMs)) = none :=
          verdictOf_eq_none hcand
        simp [NoVerdict, GateInput.isGateCall, initConfig, hlen, hverdict]
  | bridgeInit => simp [NoVerdict, GateInput.isGateCall]
  | foreignSend event => simp [NoVerdict, GateInput.isGateCall]
  | consumerPop => simp [NoVerdict, GateInput.isGateCall]

/-- A call without a verdict changes nothing and makes no send. -/
theorem noVerdict_unchanged (inv : LogInv ipc h s) {i : GateInput} (hi : NoVerdict ipc h i) :
    (gateStep s i).2 = s ∧ gateSend (gateMachine.entry s i) = none := by
  obtain ⟨hgateCall, hverdict, htaken⟩ := (noVerdict_iff inv i).mp hi
  cases logStep s i with
  | accept c hsome => exact absurd (hverdict.symm.trans hsome) (by simp)
  | reject c reason hne hsome => exact absurd (hverdict.symm.trans hsome) (by simp)
  | init config hinput hipc hvalid hsome => exact absurd (htaken.symm.trans hsome) (by simp)
  | silent _ hsend _ _ _ hcall => exact ⟨hcall hgateCall, hsend⟩

end noVerdict

/-! ### Results -/

/-- **The evidence log.** After every run of a gate, with or without a bridge pointer and over any
bridge: the accept counter is the number of accepting verdicts modulo `2 ^ 32`; the reject counter,
the escalation counter and the sends of the gate number the rejecting ones; the reason is `kNone`
exactly when there was no verdict or the last one accepted. A call without a verdict changes
nothing, and those are the calls that fail before a verdict. An initialised gate has a bridge
pointer and the last valid thresholds. -/
theorem evidence_log (ipc : Bool) (bridge : IpcBridge) (is : List GateInput) :
    let start : GateSystem := { gate := { ipc }, bridge }
    let h := gateMachine.history start is
    let s := gateMachine.final start is
    (s.gate.getAcceptCount.toNat = (verdictLog h).count true % 2 ^ 32 ∧
      s.gate.getRejectCount.toNat = (verdictLog h).count false % 2 ^ 32 ∧
      s.gate.escalationSequence.toNat = (verdictLog h).count false % 2 ^ 32 ∧
      (gateSends h).length = (verdictLog h).count false) ∧
    (s.gate.getLastRejectReason = .kNone ↔
      verdictLog h = [] ∨ (verdictLog h).getLast? = some true) ∧
    (∀ i, NoVerdict ipc h i → (gateStep s i).2 = s ∧ gateSend (gateMachine.entry s i) = none) ∧
    (∀ i, NoVerdict ipc h i ↔
      i.isGateCall = true ∧ verdictOf (gateMachine.entry s i) = none ∧
        initConfig (gateMachine.entry s i) = none) ∧
    (s.gate.initialised = true → s.gate.ipc = true ∧ lastValidConfig h = some s.gate.config) := by
  intro start h s
  have inv : LogInv ipc h s := logInv_run ipc bridge is
  obtain ⟨haccept, hreject, hescalation, hreason⟩ := inv.evidence
  refine ⟨⟨?_, ?_, ?_, inv.sends⟩, ?_, ?_, noVerdict_iff inv, inv.ready⟩
  · rw [SotifPlausibilityGate.getAcceptCount, haccept, UInt32.toNat_ofNat']
  · rw [SotifPlausibilityGate.getRejectCount, hreject, UInt32.toNat_ofNat']
  · rw [hescalation, UInt32.toNat_ofNat']
  · rw [SotifPlausibilityGate.getLastRejectReason, hreason, ← List.getLast?_eq_none_iff]
    rcases (verdictLog h).getLast? with _ | _ | _ <;> simp
  · intro i hi
    exact noVerdict_unchanged inv hi

/-- `evidence_log` for a run with a candidate before `Init`, an acceptance, an event of the wrong
length and a rejection whose send fails. -/
theorem evidence_log_mixedRun :
    let is : List GateInput :=
      [.evaluate (nominalCandidate 1.5) 120, .init {}, .evaluate (nominalCandidate 1.5) 120,
        .ingestSoaEvent { payloadLen := 24 } 120, .evaluate (nominalCandidate 1.5) 500]
    let h := gateMachine.history { gate := { ipc := true }, bridge := { ring := none } } is
    let s := gateMachine.final { gate := { ipc := true }, bridge := { ring := none } } is
    verdictLog h = [true, false] ∧ s.gate.getRejectCount.toNat = 1 % 2 ^ 32 ∧
      (gateStep s (.init { minConfidence := 2.0 })).2 = s ∧
      (s.gate.ipc = true ∧ lastValidConfig h = some s.gate.config) := by
  intro is h s
  have hlog : verdictLog h = [true, false] := by decide
  have hinvalid : NoVerdict true h (.init { minConfidence := 2.0 }) :=
    Or.inr (by decide)
  obtain ⟨⟨-, hreject, -, -⟩, -, hunchanged, -, hready⟩ := evidence_log true { ring := none } is
  refine ⟨hlog, ?_, (hunchanged _ hinvalid).1, hready (by decide)⟩
  rw [hreject]
  exact congrArg (·.count false % 2 ^ 32) hlog

end SotifPlausibility.Sotif
