import SotifPlausibility.Soa.TransitionLog

/-!
# The sensor domains of the arbitrator

Each of the eight domains is a monitor of its own: it reads the reports and the heartbeats of one
sensor and the scans of the cycles, and nothing else that is called touches it. What a run leaves in
a domain is then the fold of a small function over the inputs of that domain.

* `DomainState.step` — the monitor; `domainInput i` — what a call means to domain `i`.
* `domains_run` — an arbitrator's domains after a run are eight monitors side by side.
* `recovery_needs_report` — a failed domain is nominal again only after a nominal report; heartbeats
  alone never clear a failure.
* `phantom_domain` — the eighth domain, which nothing can report: when it fails, and what follows.

Source: `SafetyArbitrator.cpp` (either copy), `IngestFault`, `RecordHeartbeat`, `ScanTimeouts`.
-/

namespace SotifPlausibility.Soa

open SotifPlausibility.Found

/-! ### The monitor of one domain -/

/-- What can happen to one domain. -/
inductive DomainInput where
  | report (health : SensorHealth) (faultCode : UInt32) (nowMs : UInt64)
  | heartbeat (nowMs : UInt64)
  | scan (nowMs : UInt64)
  deriving DecidableEq

namespace DomainState

/-- Source: `SafetyArbitrator.cpp`, `SafetyArbitrator::IngestFault`, for the reported domain. -/
def report (dom : DomainState) (health : SensorHealth) (faultCode : UInt32) (nowMs : UInt64) :
    DomainState :=
  let dom := { dom with health := health, dtcCode := faultCode }
  if health = .kNominal then { dom with faultCount := 0, lastHeartbeat := nowMs }
  else { dom with faultCount := dom.faultCount + 1 }

/-- Source: `SafetyArbitrator.cpp`, `SafetyArbitrator::RecordHeartbeat`, for the domain named. -/
def heartbeat (dom : DomainState) (nowMs : UInt64) : DomainState :=
  let health := if dom.faultCount = 0 then .kNominal else dom.health
  { dom with lastHeartbeat := nowMs, health }

/-- The monitor. -/
def step (dom : DomainState) : DomainInput → DomainState
  | .report health faultCode nowMs => dom.report health faultCode nowMs
  | .heartbeat nowMs => dom.heartbeat nowMs
  | .scan nowMs => SafetyArbitrator.scanDomain nowMs dom

end DomainState

/-- The field of the fault code lies in the payload. -/
theorem faultCode_within : 4 + 4 ≤ 256 := by decide

/-- The field of the time stamp lies in the payload. -/
theorem timestampMs_within : 8 + 4 ≤ 256 := by decide

/-- The report an event carries.
Source: `SafetyArbitrator.cpp`, `SafetyArbitrator::IngestSoaEvent`. -/
def faultOfEvent (event : SoaEvent) : SensorFaultEvent where
  domain := ⟨event.payload.get 0⟩
  health := ⟨event.payload.get 1⟩
  faultCode := Bytes.unpackU32 (event.payload.load 4 4 faultCode_within)
  timestampMs := Bytes.unpackU32 (event.payload.load 8 4 timestampMs_within)

/-- The report a call makes. -/
def ArbitratorCall.fault : ArbitratorCall → Option (SensorFaultEvent × UInt64)
  | .ingestFault fault nowMs => some (fault, nowMs)
  | .ingestSoaEvent event nowMs =>
      if event.payloadLen < 12 then none else some (faultOfEvent event, nowMs)
  | .injectFault domain health dtcCode reportMs nowMs =>
      some ({ domain, health, timestampMs := reportMs.toUInt32, faultCode := dtcCode }, nowMs)
  | _ => none

/-- A call names domain `i`, which is one of the seven that have a sensor. -/
def SensorDomain.Names (d : SensorDomain) (i : Fin 8) : Prop :=
  d.raw.toNat = i ∧ d.raw < kNumSensorDomains

instance (d : SensorDomain) (i : Fin 8) : Decidable (d.Names i) :=
  inferInstanceAs (Decidable (_ ∧ _))

/-- What a call means to domain `i`. -/
def domainInput (i : Fin 8) (call : ArbitratorCall) : Option DomainInput :=
  match call with
  | .recordHeartbeat domain nowMs => if domain.Names i then some (.heartbeat nowMs) else none
  | .arbitrate _ clock => some (.scan clock.scan)
  | call =>
      call.fault.bind fun (fault, nowMs) =>
        if fault.domain.Names i then some (.report fault.health fault.faultCode nowMs) else none

/-- What a report means to a domain. -/
theorem domainInput_of_fault {call : ArbitratorCall} {fault : SensorFaultEvent} {nowMs : UInt64}
    (h : call.fault = some (fault, nowMs)) (i : Fin 8) :
    domainInput i call =
      if fault.domain.Names i then some (.report fault.health fault.faultCode nowMs) else none := by
  cases call with
  | recordHeartbeat domain nowMs' => simp [ArbitratorCall.fault] at h
  | arbitrate bridge clock => simp [ArbitratorCall.fault] at h
  | _ => simp only [domainInput, h, Option.bind_some]

section arbitrator

variable (matrix : SafetyArbitrator → SafeState) {arb : SafetyArbitrator}

/-- An update of the domain a call names. -/
theorem get_update (domains : Vector DomainState 8) (f : DomainState → DomainState)
    {d : SensorDomain} (hvalid : d.raw < kNumSensorDomains) (hd : d.raw.toNat < 8) (i : Fin 8) :
    (domains.set d.raw.toNat (f (domains.get ⟨d.raw.toNat, hd⟩)) hd).get i =
      if d.Names i then f (domains.get i) else domains.get i := by
  have hset : (domains.set d.raw.toNat (f (domains.get ⟨d.raw.toNat, hd⟩)) hd).get i =
      if d.raw.toNat = i then f (domains.get ⟨d.raw.toNat, hd⟩) else domains.get i :=
    Vector.getElem_set hd i.isLt
  by_cases hi : d.raw.toNat = i
  · have hnames : d.Names i := ⟨hi, hvalid⟩
    have hsame : (⟨d.raw.toNat, hd⟩ : Fin 8) = i := Fin.ext hi
    rw [if_pos hnames, hset, if_pos hi, hsame]
  · have hother : ¬ d.Names i := fun h => hi h.1
    rw [if_neg hother]
    exact hset.trans (if_neg hi)

/-- A report reaches the domain it names. -/
theorem get_ingestFault (hinit : arb.initialised = true) (fault : SensorFaultEvent)
    (nowMs : UInt64) (i : Fin 8) :
    (arb.ingestFault fault nowMs).2.domains.get i =
      if fault.domain.Names i then
        (arb.domains.get i).report fault.health fault.faultCode nowMs
      else arb.domains.get i := by
  have hready : ¬ (!arb.initialised) = true := by simp [hinit]
  unfold SafetyArbitrator.ingestFault
  rw [if_neg hready]
  dsimp only
  by_cases hvalid : fault.domain.raw < kNumSensorDomains
  · rw [dif_pos hvalid]
    exact get_update arb.domains (fun dom => dom.report fault.health fault.faultCode nowMs)
      hvalid _ i
  · rw [dif_neg hvalid, if_neg fun h => hvalid h.2]

/-- A heartbeat reaches the domain it names. -/
theorem get_recordHeartbeat (hinit : arb.initialised = true) (domain : SensorDomain)
    (nowMs : UInt64) (i : Fin 8) :
    (arb.recordHeartbeat domain nowMs).2.domains.get i =
      if domain.Names i then (arb.domains.get i).heartbeat nowMs else arb.domains.get i := by
  have hready : ¬ (!arb.initialised) = true := by simp [hinit]
  unfold SafetyArbitrator.recordHeartbeat
  rw [if_neg hready]
  dsimp only
  by_cases hvalid : domain.raw < kNumSensorDomains
  · rw [dif_pos hvalid]
    exact get_update arb.domains (fun dom => dom.heartbeat nowMs) hvalid _ i
  · rw [dif_neg hvalid, if_neg fun h => hvalid h.2]

/-- A cycle scans every domain and touches none otherwise. -/
theorem domains_arbitrateWith (hinit : arb.initialised = true) (bridge : IpcBridge)
    (clock : ClockReadings) :
    (arb.arbitrateWith matrix bridge clock).arbitrator.domains =
      (arb.scanTimeouts clock.scan).domains := by
  have hready : ¬ (!arb.initialised) = true := by simp [hinit]
  unfold SafetyArbitrator.arbitrateWith
  rw [if_neg hready]
  dsimp only
  split_ifs <;> rfl

/-- An arbitrator stays initialised. -/
theorem initialised_step (hinit : arb.initialised = true) (call : ArbitratorCall) :
    ((callMachine matrix).step arb call).2.initialised = true := by
  obtain ⟨haudit, -⟩ | ⟨hidle, -⟩ | ⟨_, -, -, haudit, -⟩ | ⟨-, t, cmd, taken⟩ :=
    callStep_cases matrix arb call
  · exact (congrArg AuditPart.initialised haudit).trans hinit
  · exact absurd (hidle.symm.trans hinit) (by simp)
  · exact (congrArg AuditPart.initialised haudit).trans hinit
  · exact (congrArg AuditPart.initialised taken.audit).trans hinit

/-- **What a call does to domain `i`**: what its monitor does on the input the call is to it. -/
theorem domains_step (i : Fin 8) (hinit : arb.initialised = true) (call : ArbitratorCall) :
    ((callMachine matrix).step arb call).2.domains.get i =
      (domainInput i call).elim (arb.domains.get i) (arb.domains.get i).step := by
  cases call with
  | init mandatoryDomains nowMs =>
      have hagain : (arb.init mandatoryDomains nowMs).2 = arb := by
        unfold SafetyArbitrator.init
        rw [if_pos hinit]
      exact congrArg (fun arb : SafetyArbitrator => arb.domains.get i) hagain
  | registerListener listener =>
      have hsame : (arb.registerListener listener).2.domains = arb.domains := by
        unfold SafetyArbitrator.registerListener
        cases listener with
        | none =>
            dsimp only
            split_ifs <;> rfl
        | some listener =>
            dsimp only
            split_ifs <;> rfl
      exact congrArg (fun domains : Vector DomainState 8 => domains.get i) hsame
  | ingestFault fault nowMs =>
      refine (get_ingestFault hinit fault nowMs i).trans ?_
      simp only [domainInput, ArbitratorCall.fault, Option.bind_some]
      split_ifs <;> rfl
  | ingestSoaEvent event nowMs =>
      have hready : ¬ (!arb.initialised) = true := by simp [hinit]
      show (arb.ingestSoaEvent event nowMs).2.domains.get i = _
      unfold SafetyArbitrator.ingestSoaEvent
      rw [if_neg hready]
      by_cases hshort : event.payloadLen < 12
      · simp only [domainInput, ArbitratorCall.fault, if_pos hshort, Option.bind_none,
          Option.elim_none]
      · simp only [domainInput, ArbitratorCall.fault, if_neg hshort, Option.bind_some]
        refine (get_ingestFault hinit (faultOfEvent event) nowMs i).trans ?_
        split_ifs <;> rfl
  | injectFault domain health dtcCode reportMs nowMs =>
      refine (get_ingestFault hinit _ nowMs i).trans ?_
      simp only [domainInput, ArbitratorCall.fault, Option.bind_some]
      split_ifs <;> rfl
  | recordHeartbeat domain nowMs =>
      refine (get_recordHeartbeat hinit domain nowMs i).trans ?_
      simp only [domainInput]
      split_ifs <;> rfl
  | arbitrate bridge clock =>
      have hdomains := domains_arbitrateWith matrix hinit bridge clock
      refine (congrArg (fun domains : Vector DomainState 8 => domains.get i) hdomains).trans ?_
      exact Vector.getElem_map _ i.isLt

/-- **The domains of an arbitrator are independent monitors**: what a run leaves in domain `i` is
what the monitor makes of the inputs of that domain. -/
theorem domains_run (i : Fin 8) (hinit : arb.initialised = true) (calls : List ArbitratorCall) :
    ((callMachine matrix).final arb calls).domains.get i =
      (calls.filterMap (domainInput i)).foldl DomainState.step (arb.domains.get i) :=
  (callMachine matrix).final_component (p := fun arb : SafetyArbitrator => arb.domains.get i)
    (I := fun arb => arb.initialised = true) (fun _ call h => initialised_step matrix h call)
    (fun _ call h => domains_step matrix i h call) hinit calls

end arbitrator

/-- An arbitrator after `Init`. -/
def started (mandatoryDomains : UInt8) (nowMs : UInt64) : SafetyArbitrator :=
  (({ ipc := true } : SafetyArbitrator).init mandatoryDomains nowMs).2

/-- What `Init` leaves in a domain. -/
theorem get_started (mandatoryDomains : UInt8) (nowMs : UInt64) (i : Fin 8) :
    (started mandatoryDomains nowMs).domains.get i =
      { domain := ⟨UInt8.ofNat i⟩
        health := .kUnknown
        lastHeartbeat := nowMs
        mandatory := testMask mandatoryDomains i } := by
  exact Vector.getElem_ofFn i.isLt

/-! ### Failure and recovery -/

/-- The input is a nominal report. -/
def DomainInput.IsRecovery : DomainInput → Prop
  | .report health _ _ => health = .kNominal
  | _ => False

/-- The clock at a sign of life: a heartbeat or a nominal report. -/
def DomainInput.sign : DomainInput → Option UInt64
  | .report health _ nowMs => if health = .kNominal then some nowMs else none
  | .heartbeat nowMs => some nowMs
  | .scan _ => none

instance (d : DomainInput) : Decidable d.IsRecovery :=
  match d with
  | .report health _ _ => inferInstanceAs (Decidable (health = .kNominal))
  | .heartbeat _ => .isFalse id
  | .scan _ => .isFalse id

/-- A silence is too long when it lasts more than 100 ms; a clock that ran backwards is no
silence. -/
theorem silent_iff {lastBeat nowMs : UInt64} :
    (¬ nowMs < lastBeat ∧ nowMs - lastBeat > kSensorTimeoutMs) ↔
      lastBeat.toNat + 100 < nowMs.toNat := by
  have hlimit : kSensorTimeoutMs.toNat = 100 := rfl
  rw [UInt64.not_lt, UInt64.le_iff_toNat_le, gt_iff_lt, UInt64.lt_iff_toNat_lt, hlimit]
  constructor
  · rintro ⟨hle, hlt⟩
    rw [UInt64.toNat_sub_of_le _ _ (UInt64.le_iff_toNat_le.mpr hle)] at hlt
    omega
  · intro hlt
    have hle : lastBeat.toNat ≤ nowMs.toNat := by omega
    refine ⟨hle, ?_⟩
    rw [UInt64.toNat_sub_of_le _ _ (UInt64.le_iff_toNat_le.mpr hle)]
    omega

/-- A scan fails a domain that is silent too long, and leaves any other alone. -/
theorem scanDomain_eq (nowMs : UInt64) (dom : DomainState) :
    SafetyArbitrator.scanDomain nowMs dom =
      if dom.lastHeartbeat.toNat + 100 < nowMs.toNat ∧ dom.health ≠ .kFailed then
        { dom with health := .kFailed, faultCount := dom.faultCount + 1 }
      else dom := by
  unfold SafetyArbitrator.scanDomain
  by_cases hsilent : dom.lastHeartbeat.toNat + 100 < nowMs.toNat
  · obtain ⟨hforward, hlong⟩ := silent_iff.mpr hsilent
    rw [if_neg hforward, if_pos hlong]
    by_cases hfailed : dom.health ≠ .kFailed
    · rw [if_pos hfailed, if_pos ⟨hsilent, hfailed⟩]
    · rw [if_neg hfailed, if_neg fun h => hfailed h.2]
  · have hheard : ¬ (dom.lastHeartbeat.toNat + 100 < nowMs.toNat ∧ dom.health ≠ .kFailed) :=
      fun h => hsilent h.1
    rw [if_neg hheard]
    by_cases hback : nowMs < dom.lastHeartbeat
    · rw [if_pos hback]
    · rw [if_neg hback, if_neg fun hlong => hsilent (silent_iff.mp ⟨hback, hlong⟩)]

/-- A domain of which nothing is known is not failed. -/
theorem SensorHealth.kUnknown_ne_kFailed : SensorHealth.kUnknown ≠ .kFailed := by decide

/-- A failed domain is not nominal. -/
theorem SensorHealth.kFailed_ne_kNominal : SensorHealth.kFailed ≠ .kNominal := by decide

/-- An input moves the last heartbeat exactly if it is a sign of life. -/
theorem lastHeartbeat_step (dom : DomainState) (d : DomainInput) :
    (dom.step d).lastHeartbeat = d.sign.getD dom.lastHeartbeat := by
  cases d with
  | report health faultCode nowMs =>
      simp only [DomainState.step, DomainState.report, DomainInput.sign]
      split_ifs <;> rfl
  | heartbeat nowMs => rfl
  | scan nowMs =>
      have hscan : dom.step (.scan nowMs) = _ := scanDomain_eq nowMs dom
      rw [hscan]
      split_ifs <;> rfl

/-- A domain remembers the last sign of life. -/
theorem lastHeartbeat_foldl (dom : DomainState) (ds : List DomainInput) :
    (ds.foldl DomainState.step dom).lastHeartbeat =
      (ds.filterMap DomainInput.sign).getLast?.getD dom.lastHeartbeat := by
  induction ds using List.reverseRecOn with
  | nil => rfl
  | append_singleton ds d ih =>
      rw [List.foldl_append, List.foldl_cons, List.foldl_nil, lastHeartbeat_step, ih,
        List.filterMap_append]
      cases hsign : d.sign with
      | none => rw [List.filterMap_cons_none hsign, List.filterMap_nil, List.append_nil,
          Option.getD_none]
      | some beat => rw [List.filterMap_cons_some hsign, List.filterMap_nil, List.getLast?_concat,
          Option.getD_some, Option.getD_some]

section counts

variable {dom : DomainState}

/-- **All an input can do to the health of a domain**: a nominal report clears it, any other report
and a scan that finds it silent count a fault, and a heartbeat makes a domain without faults
nominal. -/
theorem step_cases (dom : DomainState) (d : DomainInput) :
    (d.IsRecovery ∧ (dom.step d).health = .kNominal ∧ (dom.step d).faultCount = 0) ∨
      (¬ d.IsRecovery ∧ (dom.step d).health ≠ .kNominal ∧
        (dom.step d).faultCount = dom.faultCount + 1) ∨
      (¬ d.IsRecovery ∧ dom.faultCount = 0 ∧ (dom.step d).health = .kNominal ∧
        (dom.step d).faultCount = 0) ∨
      (¬ d.IsRecovery ∧ (dom.step d).health = dom.health ∧
        (dom.step d).faultCount = dom.faultCount) := by
  cases d with
  | report health faultCode nowMs =>
      have hreport : dom.step (.report health faultCode nowMs) =
          if health = .kNominal then
            { dom with health, dtcCode := faultCode, faultCount := 0, lastHeartbeat := nowMs }
          else { dom with health, dtcCode := faultCode, faultCount := dom.faultCount + 1 } := rfl
      by_cases hnominal : health = .kNominal
      · rw [hreport, if_pos hnominal]
        exact Or.inl ⟨hnominal, hnominal, rfl⟩
      · rw [hreport, if_neg hnominal]
        exact Or.inr (Or.inl ⟨hnominal, hnominal, rfl⟩)
  | heartbeat nowMs =>
      by_cases hzero : dom.faultCount = 0
      · exact Or.inr (Or.inr (Or.inl ⟨id, hzero, if_pos hzero, hzero⟩))
      · exact Or.inr (Or.inr (Or.inr ⟨id, if_neg hzero, rfl⟩))
  | scan nowMs =>
      have hscan : dom.step (.scan nowMs) = _ := scanDomain_eq nowMs dom
      rw [hscan]
      split_ifs with hsilent
      · exact Or.inr (Or.inl ⟨id, SensorHealth.kFailed_ne_kNominal, rfl⟩)
      · exact Or.inr (Or.inr (Or.inr ⟨id, rfl, rfl⟩))

/-- The next fault is counted as long as the counter does not wrap. -/
theorem toNat_faultCount_succ {count : UInt32} (h : count.toNat + 1 < 2 ^ 32) :
    (count + 1).toNat = count.toNat + 1 := by
  have hone : (1 : UInt32).toNat = 1 := rfl
  rw [UInt32.toNat_add, hone, Nat.mod_eq_of_lt h]

/-- What every input keeps: there are at most as many faults as inputs, and a domain that is failed
has some. -/
structure CountInv (n : ℕ) (dom : DomainState) : Prop where
  bound : dom.faultCount.toNat ≤ n
  failed : dom.health = .kFailed → 0 < dom.faultCount.toNat

/-- One input keeps the bound on the count. -/
theorem countInv_step {n : ℕ} (inv : CountInv n dom) (hn : n + 1 < 2 ^ 32) (d : DomainInput) :
    CountInv (n + 1) (dom.step d) := by
  have hbound := inv.bound
  obtain ⟨-, hhealth, hcount⟩ | ⟨-, -, hcount⟩ | ⟨-, -, hhealth, hcount⟩ | ⟨-, hhealth, hcount⟩ :=
    step_cases dom d
  · refine ⟨by simp [hcount], ?_⟩
    rw [hhealth]
    exact fun h => absurd h.symm SensorHealth.kFailed_ne_kNominal
  · have hsucc := toNat_faultCount_succ (by omega : dom.faultCount.toNat + 1 < 2 ^ 32)
    rw [← hcount] at hsucc
    exact ⟨by omega, fun _ => by omega⟩
  · refine ⟨by simp [hcount], ?_⟩
    rw [hhealth]
    exact fun h => absurd h.symm SensorHealth.kFailed_ne_kNominal
  · refine ⟨by rw [hcount]; omega, ?_⟩
    rw [hhealth, hcount]
    exact inv.failed

/-- The invariant after a run of inputs. -/
theorem countInv_foldl {n : ℕ} (inv : CountInv n dom) (ds : List DomainInput)
    (hn : n + ds.length < 2 ^ 32) : CountInv (n + ds.length) (ds.foldl DomainState.step dom) := by
  induction ds generalizing n dom with
  | nil => exact inv
  | cons d ds ih =>
      rw [List.length_cons] at hn ⊢
      have hshift : n + (ds.length + 1) = n + 1 + ds.length := by omega
      rw [hshift, List.foldl_cons]
      exact ih (countInv_step inv (by omega) d) (by omega)

/-- A domain with faults keeps them, and is not nominal, while no nominal report comes. -/
theorem faulty_foldl {n : ℕ} (hbound : dom.faultCount.toNat ≤ n)
    (hfaulty : 0 < dom.faultCount.toNat) (hhealth : dom.health ≠ .kNominal)
    (ds : List DomainInput) (hn : n + ds.length < 2 ^ 32)
    (hnone : ∀ d ∈ ds, ¬ d.IsRecovery) : (ds.foldl DomainState.step dom).health ≠ .kNominal := by
  induction ds generalizing n dom with
  | nil => exact hhealth
  | cons d ds ih =>
      rw [List.length_cons] at hn
      have hrest : ∀ d' ∈ ds, ¬ d'.IsRecovery := fun d' h => hnone d' (List.mem_cons_of_mem d h)
      rw [List.foldl_cons]
      obtain ⟨hrecovery, -⟩ | ⟨-, hhealth', hcount⟩ | ⟨-, hzero, -⟩ | ⟨-, hhealth', hcount⟩ :=
        step_cases dom d
      · exact absurd hrecovery (hnone d List.mem_cons_self)
      · have hsucc := toNat_faultCount_succ (by omega : dom.faultCount.toNat + 1 < 2 ^ 32)
        rw [← hcount] at hsucc
        exact ih (n := n + 1) (by omega) (by omega) hhealth' (by omega) hrest
      · rw [hzero] at hfaulty
        exact absurd hfaulty (by simp)
      · rw [← hcount] at hfaulty hbound
        exact ih hbound hfaulty (hhealth' ▸ hhealth) (by omega) hrest

end counts

section runs

variable (matrix : SafetyArbitrator → SafeState) (mandatoryDomains : UInt8) (nowMs : UInt64)

/-- An arbitrator after a run that begins with `Init`. -/
def afterCalls (calls : List ArbitratorCall) : SafetyArbitrator :=
  (callMachine matrix).final (started mandatoryDomains nowMs) calls

/-- A domain after such a run. -/
theorem get_afterCalls (calls : List ArbitratorCall) (i : Fin 8) :
    (afterCalls matrix mandatoryDomains nowMs calls).domains.get i =
      (calls.filterMap (domainInput i)).foldl DomainState.step
        ((started mandatoryDomains nowMs).domains.get i) :=
  domains_run matrix i rfl calls

/-- More calls reach a domain where the run left it. -/
theorem get_afterCalls_append (calls more : List ArbitratorCall) (i : Fin 8) :
    (afterCalls matrix mandatoryDomains nowMs (calls ++ more)).domains.get i =
      (more.filterMap (domainInput i)).foldl DomainState.step
        ((afterCalls matrix mandatoryDomains nowMs calls).domains.get i) := by
  rw [get_afterCalls, get_afterCalls, List.filterMap_append, List.foldl_append]

/-- The count of a domain after such a run. -/
theorem countInv_afterCalls {calls : List ArbitratorCall} (hlen : calls.length < 2 ^ 32)
    (i : Fin 8) :
    CountInv calls.length ((afterCalls matrix mandatoryDomains nowMs calls).domains.get i) := by
  have hstart : CountInv 0 ((started mandatoryDomains nowMs).domains.get i) := by
    rw [get_started]
    exact ⟨le_refl 0, fun h => absurd h SensorHealth.kUnknown_ne_kFailed⟩
  have hread := List.length_filterMap_le (domainInput i) calls
  have inv := countInv_foldl hstart (calls.filterMap (domainInput i)) (by omega)
  have hbound := inv.bound
  rw [get_afterCalls]
  exact ⟨by omega, inv.failed⟩

/-- **A failed domain recovers only by a nominal report.** In every run of fewer calls than the
fault counter can count: once a domain is failed, whether it was reported so or fell silent, it is
not nominal again while no nominal report of it arrives, however many heartbeats do. -/
theorem recovery_needs_report {before after : List ArbitratorCall} {i : Fin 8}
    (hlen : (before ++ after).length < 2 ^ 32)
    (hfailed : ((afterCalls matrix mandatoryDomains nowMs before).domains.get i).health = .kFailed)
    (hnone : ∀ d ∈ after.filterMap (domainInput i), ¬ d.IsRecovery) :
    ((afterCalls matrix mandatoryDomains nowMs (before ++ after)).domains.get i).health ≠
      .kNominal := by
  have hread := List.length_filterMap_le (domainInput i) after
  rw [List.length_append] at hlen
  have inv := countInv_afterCalls matrix mandatoryDomains nowMs (by omega : before.length < 2 ^ 32) i
  rw [get_afterCalls_append]
  apply faulty_foldl inv.bound (inv.failed hfailed)
  · rw [hfailed]
    exact SensorHealth.kFailed_ne_kNominal
  · omega
  · exact hnone

/-- A cycle at a given time, over a bridge that refuses its command. -/
def cycleAt (scan : UInt64) : ArbitratorCall :=
  .arbitrate { ring := none } { scan, start := scan, finish := scan, log := scan }

/-- `recovery_needs_report` for a LiDAR that is silent for 200 ms and then sends heartbeats. -/
theorem recovery_needs_report_lidar :
    ((afterCalls SafetyArbitrator.computeRequiredState 0 0
      ([cycleAt 200] ++ [.recordHeartbeat .kLidar 201, .recordHeartbeat .kLidar 211,
        cycleAt 220])).domains.get 0).health ≠ .kNominal := by
  apply recovery_needs_report
  · decide
  · rw [get_afterCalls]
    decide +kernel
  · decide

/-! ### The domain without a sensor -/

/-- Nothing but the scans of the cycles reaches the eighth domain. -/
theorem domainInput_last (call : ArbitratorCall) :
    domainInput 7 call =
      match call with
      | .arbitrate _ clock => some (.scan clock.scan)
      | _ => none := by
  have hnobody : ∀ d : SensorDomain, ¬ d.Names 7 := by
    rintro d ⟨hseven, hvalid⟩
    rw [UInt8.lt_iff_toNat_lt, hseven] at hvalid
    exact absurd hvalid (by decide)
  cases call with
  | ingestSoaEvent event nowMs =>
      simp only [domainInput, ArbitratorCall.fault]
      split_ifs <;> simp [hnobody]
  | _ => simp [domainInput, ArbitratorCall.fault, hnobody]

/-- A run holds a cycle more than 100 ms after a given time. -/
def LateCycle (nowMs : UInt64) (calls : List ArbitratorCall) : Prop :=
  ∃ bridge clock, ArbitratorCall.arbitrate bridge clock ∈ calls ∧
    nowMs.toNat + 100 < clock.scan.toNat

/-- A late cycle in a run with one call more. -/
theorem lateCycle_concat (calls : List ArbitratorCall) (call : ArbitratorCall) :
    LateCycle nowMs (calls ++ [call]) ↔ LateCycle nowMs calls ∨ LateCycle nowMs [call] := by
  simp only [LateCycle, List.mem_append, or_and_right, exists_or]

/-- When a cycle is late. -/
theorem lateCycle_arbitrate (bridge : IpcBridge) (clock : ClockReadings) :
    LateCycle nowMs [.arbitrate bridge clock] ↔ nowMs.toNat + 100 < clock.scan.toNat := by
  constructor
  · rintro ⟨_, _, hmem, hlate⟩
    obtain ⟨rfl, rfl⟩ := ArbitratorCall.arbitrate.inj (List.mem_singleton.mp hmem)
    exact hlate
  · exact fun hlate => ⟨bridge, clock, List.mem_singleton_self _, hlate⟩

/-- **The domain without a sensor.** No call can report the eighth domain or send its heartbeat, but
the cycles scan it. In every run, from the first cycle on that comes more than 100 ms after `Init`,
it is failed for good, with one fault; before that its health is unknown. -/
theorem phantom_domain (calls : List ArbitratorCall) :
    let dom := (afterCalls matrix mandatoryDomains nowMs calls).domains.get 7
    dom.lastHeartbeat = nowMs ∧
      (LateCycle nowMs calls → dom.health = .kFailed ∧ dom.faultCount = 1) ∧
      (¬ LateCycle nowMs calls → dom.health = .kUnknown ∧ dom.faultCount = 0) := by
  intro dom
  have hdom : dom = _ := get_afterCalls matrix mandatoryDomains nowMs calls 7
  rw [hdom]
  clear hdom dom
  induction calls using List.reverseRecOn with
  | nil =>
      rw [List.filterMap_nil, List.foldl_nil, get_started]
      exact ⟨rfl, fun ⟨_, _, hmem, _⟩ => absurd hmem List.not_mem_nil, fun _ => ⟨rfl, rfl⟩⟩
  | append_singleton calls call ih =>
      rw [List.filterMap_append, List.foldl_append, lateCycle_concat]
      generalize (calls.filterMap (domainInput 7)).foldl DomainState.step
        ((started mandatoryDomains nowMs).domains.get 7) = dom at ih ⊢
      obtain ⟨hbeat, hlate, hearly⟩ := ih
      have hread := domainInput_last call
      cases call with
      | arbitrate bridge clock =>
          have hscan : dom.step (.scan clock.scan) = _ := scanDomain_eq clock.scan dom
          rw [List.filterMap_cons_some hread, List.filterMap_nil, List.foldl_cons, List.foldl_nil,
            hscan, hbeat, lateCycle_arbitrate]
          split_ifs with hsilent
          · have hfirst : ¬ LateCycle nowMs calls := fun h => hsilent.2 (hlate h).1
            have hcount : dom.faultCount + 1 = 1 := by
              rw [(hearly hfirst).2]
              rfl
            exact ⟨rfl, fun _ => ⟨rfl, hcount⟩, fun h => absurd (Or.inr hsilent.1) h⟩
          · refine ⟨hbeat, ?_, fun h => hearly (mt Or.inl h)⟩
            rintro (h | h)
            · exact hlate h
            · by_contra hnot
              exact hsilent ⟨h, fun hfailed => hnot (hlate (by_contra fun hfirst =>
                SensorHealth.kUnknown_ne_kFailed ((hearly hfirst).1.symm.trans hfailed)))⟩
      | _ =>
          rw [List.filterMap_cons_none hread, List.filterMap_nil, List.foldl_nil]
          refine ⟨hbeat, fun h => hlate (h.resolve_right ?_), fun h => hearly (mt Or.inl h)⟩
          rintro ⟨_, _, hmem, -⟩
          exact ArbitratorCall.noConfusion (List.mem_singleton.mp hmem)

end runs

end SotifPlausibility.Soa
