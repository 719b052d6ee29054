import SotifPlausibility.Verification.Escalation

/-!
# Relaxation over whole runs

When the verified copy of the arbitrator goes back to a milder state.

* `failed_step`, `faultCount_step` — a failed domain stays failed, and its faults stay counted,
  until a report of something else arrives.
* `relaxed_after_report` — so a milder state is always owed to such a report.

Source: `SafetyArbitrator.cpp` (the copy vendored with the harness), `Arbitrate`, `IngestFault`.
-/

namespace SotifPlausibility.Verification

open SotifPlausibility.Found SotifPlausibility.Soa

/-! ### One domain -/

section domain

variable {n : ℕ} {dom : DomainState}

/-- The input is a report of anything but a failure. -/
def IsRelief : DomainInput → Prop
  | .report health _ _ => health ≠ .kFailed
  | _ => False

/-- A failed domain stays failed under any other input, heartbeats included: it has counted a
fault. -/
theorem failed_step (inv : CountInv n dom) (hfailed : dom.health = .kFailed) {d : DomainInput}
    (hd : ¬ IsRelief d) : (dom.step d).health = .kFailed := by
  cases d with
  | report health faultCode nowMs =>
      have hreport : health = .kFailed := not_not.mp hd
      simp only [DomainState.step, DomainState.report]
      split_ifs <;> exact hreport
  | heartbeat nowMs =>
      have hfaulty : dom.faultCount ≠ 0 := fun hzero =>
        (inv.failed hfailed).ne' (congrArg UInt32.toNat hzero)
      exact (if_neg hfaulty).trans hfailed
  | scan nowMs =>
      have hscan : dom.step (.scan nowMs) = _ := scanDomain_eq nowMs dom
      rw [hscan]
      split_ifs
      · rfl
      · exact hfailed

/-- Faults stay counted under anything but a nominal report. -/
theorem faultCount_step (hn : dom.faultCount.toNat + 1 < 2 ^ 32) {d : DomainInput}
    (hd : ¬ d.IsRecovery) : dom.faultCount.toNat ≤ (dom.step d).faultCount.toNat := by
  obtain ⟨hrecovery, -⟩ | ⟨-, -, hcount⟩ | ⟨-, hzero, -, hcount⟩ | ⟨-, -, hcount⟩ :=
    step_cases dom d
  · exact absurd hrecovery hd
  · rw [hcount, toNat_faultCount_succ hn]
    exact Nat.le_succ _
  · rw [hcount, hzero]
  · rw [hcount]

/-- A failed domain over inputs without relief. -/
theorem failed_foldl (inv : CountInv n dom) (hfailed : dom.health = .kFailed)
    {ds : List DomainInput} (hn : n + ds.length < 2 ^ 32) (hds : ∀ d ∈ ds, ¬ IsRelief d) :
    (ds.foldl DomainState.step dom).health = .kFailed := by
  induction ds generalizing n dom with
  | nil => exact hfailed
  | cons d ds ih =>
      rw [List.length_cons] at hn
      rw [List.foldl_cons]
      exact ih (countInv_step inv (by omega) d) (failed_step inv hfailed (hds d List.mem_cons_self))
        (by omega) fun d' h => hds d' (List.mem_cons_of_mem d h)

/-- The faults of a domain over inputs without recovery. -/
theorem faultCount_foldl (inv : CountInv n dom) {ds : List DomainInput}
    (hn : n + ds.length < 2 ^ 32) (hds : ∀ d ∈ ds, ¬ d.IsRecovery) :
    dom.faultCount.toNat ≤ (ds.foldl DomainState.step dom).faultCount.toNat := by
  induction ds generalizing n dom with
  | nil => exact le_rfl
  | cons d ds ih =>
      rw [List.length_cons] at hn
      have hbound := inv.bound
      rw [List.foldl_cons]
      exact (faultCount_step (by omega) (hds d List.mem_cons_self)).trans
        (ih (countInv_step inv (by omega) d) (by omega)
          fun d' h => hds d' (List.mem_cons_of_mem d h))

end domain

/-! ### The state -/

section state

/-- A relief or a recovery that reaches a domain is a report that names it. -/
theorem exists_report {call : ArbitratorCall} {i : Fin 8} {d : DomainInput}
    (hread : domainInput i call = some d) (hd : IsRelief d ∨ d.IsRecovery) :
    ∃ fault reportMs, call.fault = some (fault, reportMs) ∧ fault.domain.Names i ∧
      d = .report fault.health fault.faultCode reportMs := by
  cases hfault : call.fault with
  | some reported =>
      obtain ⟨fault, reportMs⟩ := reported
      rw [domainInput_of_fault hfault] at hread
      split_ifs at hread with hnames
      exact ⟨fault, reportMs, rfl, hnames, (Option.some.inj hread).symm⟩
  | none =>
      -- what is left are heartbeats and scans
      exfalso
      cases call with
      | recordHeartbeat domain nowMs =>
          simp only [domainInput] at hread
          split_ifs at hread
          obtain rfl := Option.some.inj hread
          exact hd.elim id id
      | arbitrate bridge clock =>
          obtain rfl := Option.some.inj hread
          exact hd.elim id id
      | _ => simp [domainInput, hfault] at hread

/-- One that a domain reads in a run with a cycle at its end came before the cycle. -/
theorem exists_report_before {between : List ArbitratorCall} {bridge : IpcBridge}
    {clock : ClockReadings} {i : Fin 8} {d : DomainInput}
    (hmem : d ∈ (between ++ [ArbitratorCall.arbitrate bridge clock]).filterMap (domainInput i))
    (hd : IsRelief d ∨ d.IsRecovery) :
    ∃ call ∈ between, ∃ fault reportMs, call.fault = some (fault, reportMs) ∧
      fault.domain.Names i ∧ d = .report fault.health fault.faultCode reportMs := by
  obtain ⟨call, hcall, hread⟩ := List.mem_filterMap.mp hmem
  rcases List.mem_append.mp hcall with hcall | hcall
  · exact ⟨call, hcall, exists_report hread hd⟩
  · obtain rfl := List.mem_singleton.mp hcall
    obtain rfl := Option.some.inj hread
    exact (hd.elim id id).elim

variable (mandatoryDomains : UInt8) (nowMs : UInt64) (calls between : List ArbitratorCall)
  (bridge bridge' : IpcBridge) (clock clock' : ClockReadings)

/-- **The state relaxes only after a report.** Take two cycles of any run of the verified copy. If
the state after the second is milder than after the first, then between them a report of something
else than a failure arrived: of a domain that was failed at the first, or a nominal one of a
mandatory domain. Heartbeats, time and the fate of the commands never relax it. -/
theorem relaxed_after_report (hlen : calls.length + between.length + 2 < 2 ^ 32) :
    let before := afterCalls computeRequiredState mandatoryDomains nowMs
      (calls ++ [.arbitrate bridge clock])
    let after := afterCalls computeRequiredState mandatoryDomains nowMs
      (calls ++ .arbitrate bridge clock :: (between ++ [.arbitrate bridge' clock']))
    severityOf after.getCurrentState < severityOf before.getCurrentState →
      ∃ call ∈ between, ∃ fault reportMs i, call.fault = some (fault, reportMs) ∧
        fault.domain.Names i ∧
        ((fault.health ≠ .kFailed ∧ (before.domains.get i).health = .kFailed) ∨
          (fault.health = .kNominal ∧ testMask mandatoryDomains i = true)) := by
  intro before after hrelaxed
  by_contra hnone
  let last : ArbitratorCall := .arbitrate bridge' clock'
  -- what a domain reads after the first cycle
  have hrun : ∀ i : Fin 8, after.domains.get i =
      ((between ++ [last]).filterMap (domainInput i)).foldl DomainState.step
        (before.domains.get i) := by
    intro i
    rw [← get_afterCalls_append, List.append_assoc, List.singleton_append]
  have hinv : ∀ i : Fin 8, CountInv (calls.length + 1) (before.domains.get i) := by
    intro i
    have hlength : (calls ++ [ArbitratorCall.arbitrate bridge clock]).length = calls.length + 1 :=
      List.length_append
    rw [← hlength]
    exact countInv_afterCalls _ mandatoryDomains nowMs (by omega) i
  have hread : ∀ i, calls.length + 1 + ((between ++ [last]).filterMap (domainInput i)).length <
      2 ^ 32 := by
    intro i
    have hle := List.length_filterMap_le (domainInput i) (between ++ [last])
    rw [List.length_append, List.length_singleton] at hle
    omega
  have hfollows := follows_verified mandatoryDomains nowMs calls bridge clock
  have hfollows' := follows_verified mandatoryDomains nowMs
    (calls ++ .arbitrate bridge clock :: between) bridge' clock'
  rw [List.append_assoc, List.cons_append] at hfollows'
  refine absurd (hfollows.severityOf_le hfollows' ?_ ?_) (not_le.mpr hrelaxed)
  · intro i hfailed
    show (after.domains.get i).health = _
    rw [hrun]
    refine failed_foldl (hinv i) hfailed (hread i) fun d hmem hd => hnone ?_
    obtain ⟨call, hcall, fault, reportMs, hfault, hnames, rfl⟩ :=
      exists_report_before hmem (Or.inl hd)
    exact ⟨call, hcall, fault, reportMs, i, hfault, hnames, Or.inl ⟨hd, hfailed⟩⟩
  · intro i hi
    rw [UInt32.le_iff_toNat_le]
    show (before.domains.get i).faultCount.toNat ≤ (after.domains.get i).faultCount.toNat
    rw [hrun]
    refine faultCount_foldl (hinv i) (hread i) fun d hmem hd => hnone ?_
    obtain ⟨call, hcall, fault, reportMs, hfault, hnames, rfl⟩ :=
      exists_report_before hmem (Or.inr hd)
    exact ⟨call, hcall, fault, reportMs, i, hfault, hnames, Or.inr ⟨hd, hi⟩⟩

/-- `relaxed_after_report` for a LiDAR that recovers while the radar lost with it is still failed.
-/
theorem relaxed_after_report_lidar :
    ∃ call ∈ [ArbitratorCall.ingestFault { domain := .kLidar, health := .kNominal } 20],
      ∃ fault reportMs i, call.fault = some (fault, reportMs) ∧ fault.domain.Names i ∧
        ((fault.health ≠ .kFailed ∧ ((afterCalls computeRequiredState 0 0
            ([failureOf .kLidar, failureOf .kRadar] ++ [cycleAt 15])).domains.get i).health =
              .kFailed) ∨
          (fault.health = .kNominal ∧ testMask 0 i = true)) :=
  relaxed_after_report 0 0 _ _ _ { ring := none } _
    { scan := 25, start := 25, finish := 25, log := 25 } (by decide) (by decide +kernel)

end state

end SotifPlausibility.Verification
