import SotifPlausibility.Zzta.HybridSessions

/-!
# One signature for a challenge

How often a signature can be tried. An engine and its gate under any order of calls, over any
platform.

* `checks` — the answers of the signature checks a step made, classical or post-quantum.
* `checks_cases` — a step makes at most one: with a challenge in flight, which is then spent, or on
  an authenticated session; one that fails revokes the session.
* `one_check_per_challenge` — a classical signature is checked at most once for each challenge sent.
* `failed_checks_apart` — between a check that fails and the next there is a reset and a new
  challenge.

Source: `SpdmProtocolEngine.cpp`, `HybridAuthGate.cpp`.
-/

namespace SotifPlausibility.Zzta

open SotifPlausibility.Found

/-! ### Checks -/

/-- The answer of a signature check. -/
def signatureStatus : PlatformCall → Option CryptoStatus
  | ⟨.verifyEccSignature _ _ _, status⟩ => some status
  | ⟨.pqcVerify _ _ _, status⟩ => some status
  | _ => none

section checks

variable {σ : Type}

/-- The answers of the signature checks of a step. -/
def checks (e : HybridEntry σ) : List CryptoStatus := e.output.calls.filterMap signatureStatus

/-- A response whose signature was checked. -/
def ClassicalCheck (e : HybridEntry σ) : Prop :=
  (∃ response token, e.input = .processAuthResponse response token) ∧ checks e ≠ []

/-- A step with a signature check that failed, of either kind. -/
def FailedCheck (e : HybridEntry σ) : Prop := ∃ status ∈ checks e, status ≠ .kOk

/-- **What a response checks**: nothing without a challenge in flight. Otherwise the challenge is
spent, and at most one signature is checked; if that fails the session is revoked. -/
theorem processAuthResponse_checks {engine : SpdmProtocolEngine} {calls : List PlatformCall}
    {response : SpdmAuthResponse} {token : SpdmSessionToken} {out : SpdmResponseOutcome}
    (h : (engine.processAuthResponse response token).Yields calls out) :
    calls.filterMap signatureStatus = [] ∨
      (engine.state = .kChallengeSent ∧ out.engine.state ≠ .kChallengeSent ∧
        ∃ status, calls.filterMap signatureStatus = [status] ∧
          (status ≠ .kOk → out.engine.state = .kRevoked)) := by
  unfold SpdmProtocolEngine.processAuthResponse computeSha256 verifyEccSignature
    deriveSessionKey at h
  by_cases hstate : engine.state = .kChallengeSent
  swap
  · rw [if_pos hstate] at h
    obtain ⟨rfl, -⟩ := h
    exact Or.inl rfl
  rw [if_neg (not_not.mpr hstate)] at h
  split_ifs at h with hclient
  · obtain ⟨rfl, -⟩ := h
    exact Or.inl rfl
  cases hpeer : engine.findPeerPublicKey response.clientId with
  | none =>
      rw [hpeer] at h
      obtain ⟨rfl, -⟩ := h
      exact Or.inl rfl
  | some key =>
      rw [hpeer] at h
      obtain ⟨digest, calls₁, rest₁, rfl, hhash, h₁⟩ := OracleProg.yields_bind.mp h
      obtain rfl := OracleProg.yields_call.mp hhash
      split_ifs at h₁ with hdigest
      · obtain ⟨rfl, -⟩ := h₁
        exact Or.inl rfl
      obtain ⟨verified, calls₂, rest₂, rfl, hverify, h₂⟩ := OracleProg.yields_bind.mp h₁
      obtain rfl := OracleProg.yields_call.mp hverify
      refine Or.inr ⟨hstate, ?_⟩
      by_cases hverified : verified = .kOk
      swap
      · rw [if_pos hverified] at h₂
        obtain ⟨rfl, rfl⟩ := h₂
        exact ⟨SpdmState.noConfusion, verified, rfl, fun _ => rfl⟩
      rw [if_neg (not_not.mpr hverified)] at h₂
      obtain ⟨derived, calls₃, rest₃, rfl, hderive, h₃⟩ := OracleProg.yields_bind.mp h₂
      obtain rfl := OracleProg.yields_call.mp hderive
      split_ifs at h₃ with hderived
      · obtain ⟨rfl, rfl⟩ := h₃
        exact ⟨SpdmState.noConfusion, verified, rfl, fun hne => absurd hverified hne⟩
      · obtain ⟨rfl, rfl⟩ := h₃
        exact ⟨SpdmState.noConfusion, verified, rfl, fun hne => absurd hverified hne⟩

/-- A request checks no signature. -/
theorem processAuthRequest_checks {engine : SpdmProtocolEngine} {calls : List PlatformCall}
    {request : SpdmAuthRequest} {out : SpdmOutcome}
    (h : (engine.processAuthRequest request).Yields calls out) :
    calls.filterMap signatureStatus = [] := by
  unfold SpdmProtocolEngine.processAuthRequest generateRandomNonce at h
  split_ifs at h with hstate hauth hversion hpeer
  · obtain ⟨rfl, -⟩ := h
    rfl
  · obtain ⟨rfl, -⟩ := h
    rfl
  · obtain ⟨rfl, -⟩ := h
    rfl
  · obtain ⟨rfl, -⟩ := h
    rfl
  · obtain ⟨nonce, calls₁, rest₁, rfl, hcall, h₁⟩ := OracleProg.yields_bind.mp h
    obtain rfl := OracleProg.yields_call.mp hcall
    split_ifs at h₁ with hnonce
    · obtain ⟨rfl, -⟩ := h₁
      rfl
    · obtain ⟨rfl, -⟩ := h₁
      rfl

/-- **What a step checks**: nothing, or one signature. A response spends the challenge in flight on
it, a confirmation has an authenticated session; a check that fails revokes the session. -/
theorem checks_cases (platform : Platform σ) (s : HybridSystem σ) (i : HybridInput) :
    let e := (hybridMachine platform).entry s i
    checks e = [] ∨ ∃ status, checks e = [status] ∧
      (status ≠ .kOk → e.after.engine.state = .kRevoked) ∧
      ((ClassicalCheck e ∧ s.engine.state = .kChallengeSent ∧
          e.after.engine.state ≠ .kChallengeSent) ∨
        (¬ ClassicalCheck e ∧ s.engine.state = .kAuthenticated)) := by
  intro e
  cases i with
  | processAuthRequest request =>
      exact Or.inl (processAuthRequest_checks
        (OracleProg.yields_run (s.engine.processAuthRequest request) platform s.platform))
  | processAuthResponse response token =>
      rcases processAuthResponse_checks (OracleProg.yields_run
          (s.engine.processAuthResponse response token) platform s.platform) with
        hnone | ⟨hbefore, hafter, status, hchecks, hfailed⟩
      · exact Or.inl hnone
      · have hone : checks e = [status] := hchecks
        refine Or.inr ⟨status, hone, hfailed, Or.inl ⟨⟨⟨response, token, rfl⟩, ?_⟩, hbefore,
          hafter⟩⟩
        rw [hone]
        exact List.cons_ne_nil _ _
  | revoke => exact Or.inl rfl
  | reset => exact Or.inl rfl
  | confirmHybrid clientId publicKey signature nonce =>
      rcases confirmHybrid_yields (OracleProg.yields_run
          (HybridAuthGate.confirmHybrid s.engine clientId publicKey signature nonce) platform
            s.platform) with
        ⟨-, hcalls, -⟩ | ⟨hauth, status, hcalls, hout⟩
      · have hnone : e.output.calls = [] := hcalls
        unfold checks
        rw [hnone]
        exact Or.inl rfl
      · have hone : e.output.calls = [⟨.pqcVerify publicKey _ signature, status⟩] := hcalls
        have hchecks : checks e = [status] := by
          unfold checks
          rw [hone]
          rfl
        have hclassical : ¬ ClassicalCheck e := by
          rintro ⟨⟨_, _, hinput⟩, -⟩
          exact HybridInput.noConfusion hinput
        refine Or.inr ⟨status, hchecks, ?_, Or.inr ⟨hclassical, hauth⟩⟩
        intro hne
        rcases hout with ⟨hok, -⟩ | ⟨-, hout⟩
        · exact absurd hok hne
        · exact congrArg (fun out : SpdmOutcome => out.engine.state) hout

end checks

/-! ### Runs -/

section runs

/-- A call of `processAuthRequest`. -/
def HybridInput.isRequest : HybridInput → Bool
  | .processAuthRequest _ => true
  | _ => false

/-- A call of `processAuthResponse`. -/
def HybridInput.isResponse : HybridInput → Bool
  | .processAuthResponse _ _ => true
  | _ => false

/-- The test for a request. -/
theorem HybridInput.isRequest_iff (i : HybridInput) :
    i.isRequest = true ↔ ∃ request, i = .processAuthRequest request := by
  cases i <;> simp [HybridInput.isRequest]

/-- The test for a response. -/
theorem HybridInput.isResponse_iff (i : HybridInput) :
    i.isResponse = true ↔ ∃ response token, i = .processAuthResponse response token := by
  cases i <;> simp [HybridInput.isResponse]

variable {σ : Type}

instance (e : HybridEntry σ) : Decidable (RequestOk e) :=
  decidable_of_iff (e.input.isRequest = true ∧ e.output.status = some .kOk)
    (and_congr_left fun _ => e.input.isRequest_iff)

instance (e : HybridEntry σ) : Decidable (ClassicalCheck e) :=
  decidable_of_iff (e.input.isResponse = true ∧ checks e ≠ [])
    (and_congr_left fun _ => e.input.isResponse_iff)

/-- How many challenges were sent. -/
def challengesSent (h : List (HybridEntry σ)) : ℕ := h.countP fun e => RequestOk e

/-- How many responses had their signature checked. -/
def classicalChecks (h : List (HybridEntry σ)) : ℕ := h.countP fun e => ClassicalCheck e

variable {platform : Platform σ} {s : HybridSystem σ}

/-- A step checks one signature at most. -/
theorem length_checks_le (s : HybridSystem σ) (i : HybridInput) :
    (checks ((hybridMachine platform).entry s i)).length ≤ 1 := by
  rcases checks_cases platform s i with hnone | ⟨status, hone, -⟩
  · rw [hnone]
    exact Nat.zero_le 1
  · rw [hone]
    rfl

/-- A challenge in flight after a step was sent by it, or was in flight before and is not spent. -/
theorem challengeSent_after {i : HybridInput}
    (h : (hybridStep platform s i).2.engine.state = .kChallengeSent) :
    RequestOk ((hybridMachine platform).entry s i) ∨
      (s.engine.state = .kChallengeSent ∧
        ¬ EndsSession ((hybridMachine platform).entry s i) ∧
        ¬ ClassicalCheck ((hybridMachine platform).entry s i)) := by
  rcases hybridStep_cases platform s i with
    ⟨-, -, hafter, -⟩ | ⟨hrequest, -, -⟩ | ⟨-, hafter⟩ | hafter | hkeeps
  · exact SpdmState.noConfusion (hafter.symm.trans h)
  · exact Or.inl hrequest
  · exact SpdmState.noConfusion (hafter.symm.trans h)
  · exact SpdmState.noConfusion (hafter.symm.trans h)
  · refine Or.inr ⟨hkeeps.state.symm.trans h, hkeeps.endsSession, ?_⟩
    intro hcheck
    rcases checks_cases platform s i with hnone | ⟨-, -, -, ⟨-, -, hspent⟩ | ⟨hnot, -⟩⟩
    · exact hcheck.2 hnone
    · exact hspent h
    · exact hnot hcheck

/-- A classical check has a challenge in flight and spends it. -/
theorem challengeSent_of_classicalCheck {i : HybridInput}
    (h : ClassicalCheck ((hybridMachine platform).entry s i)) :
    s.engine.state = .kChallengeSent ∧
      (hybridStep platform s i).2.engine.state ≠ .kChallengeSent := by
  rcases checks_cases platform s i with hnone | ⟨-, -, -, ⟨-, hbefore, hafter⟩ | ⟨hnot, -⟩⟩
  · exact absurd hnone h.2
  · exact ⟨hbefore, hafter⟩
  · exact absurd h hnot

/-- Where a challenge in flight comes from, and how many were spent. -/
structure ChallengeUse (h : List (HybridEntry σ)) (s : HybridSystem σ) : Prop where
  origin : s.engine.state = .kChallengeSent →
    Since (fun f => ¬ EndsSession f ∧ ¬ ClassicalCheck f) RequestOk h
  spent : classicalChecks h + (if s.engine.state = .kChallengeSent then 1 else 0) ≤ challengesSent h

/-- One step keeps the account. -/
theorem challengeUse_step {h : List (HybridEntry σ)} (inv : ChallengeUse h s) (i : HybridInput) :
    ChallengeUse (h ++ [(hybridMachine platform).entry s i]) (hybridStep platform s i).2 := by
  constructor
  · intro hafter
    rw [since_concat]
    rcases challengeSent_after hafter with hrequest | ⟨hbefore, hends, hcheck⟩
    · exact Or.inl hrequest
    · exact Or.inr ⟨⟨hends, hcheck⟩, inv.origin hbefore⟩
  · have hspent := inv.spent
    unfold classicalChecks challengesSent at hspent ⊢
    rw [List.countP_append, List.countP_append, List.countP_singleton, List.countP_singleton]
    simp only [decide_eq_true_eq]
    by_cases hcheck : ClassicalCheck ((hybridMachine platform).entry s i)
    · -- the challenge in flight is spent
      obtain ⟨hbefore, hafter⟩ := challengeSent_of_classicalCheck hcheck
      rw [if_pos hbefore] at hspent
      rw [if_pos hcheck, if_neg hafter]
      omega
    · rw [if_neg hcheck]
      by_cases hafter : (hybridStep platform s i).2.engine.state = .kChallengeSent
      · rcases challengeSent_after hafter with hrequest | ⟨hbefore, -, -⟩
        · rw [if_pos hafter, if_pos hrequest]
          omega
        · rw [if_pos hbefore] at hspent
          rw [if_pos hafter]
          omega
      · rw [if_neg hafter]
        omega

variable {peerTable : Option (List KnownPeerEntry)} {peerCount : ℕ} {s₀ : σ}

/-- Every run keeps the account. -/
theorem challengeUse_run (is : List HybridInput) :
    ChallengeUse ((hybridMachine platform).history (HybridSystem.start peerTable peerCount s₀) is)
      ((hybridMachine platform).final (HybridSystem.start peerTable peerCount s₀) is) := by
  apply (hybridMachine platform).run_induction (P := ChallengeUse)
  · exact ⟨fun h => SpdmState.noConfusion h, Nat.zero_le _⟩
  · intro h t i inv
    exact challengeUse_step inv i

/-- **A challenge is good for one signature.** In every run of an engine and its gate, over any
platform, a step checks one signature at most, so no more classical signatures are checked than
challenges were sent; and a response whose signature is checked has a challenge before it, since
which no other was checked and nothing ended the session. -/
theorem one_check_per_challenge (platform : Platform σ) (peerTable : Option (List KnownPeerEntry))
    (peerCount : ℕ) (s₀ : σ) (is : List HybridInput) :
    let h := (hybridMachine platform).history (HybridSystem.start peerTable peerCount s₀) is
    (∀ e ∈ h, (checks e).length ≤ 1) ∧ classicalChecks h ≤ challengesSent h ∧
      ∀ pre e post, h = pre ++ e :: post → ClassicalCheck e →
        Since (fun f => ¬ EndsSession f ∧ ¬ ClassicalCheck f) RequestOk pre := by
  intro h
  refine ⟨?_, ?_, ?_⟩
  · intro e he
    obtain ⟨pre, post, hsplit⟩ := List.append_of_mem he
    obtain ⟨is₁, i, -, -, -, rfl, -⟩ := (hybridMachine platform).history_eq_append_cons hsplit
    exact length_checks_le _ i
  · exact (Nat.le_add_right _ _).trans (challengeUse_run is).spent
  · intro pre e post hsplit hcheck
    obtain ⟨is₁, i, -, -, rfl, rfl, -⟩ := (hybridMachine platform).history_eq_append_cons hsplit
    exact (challengeUse_run is₁).origin (challengeSent_of_classicalCheck hcheck).1

/-- A step with a check has a challenge in flight or an authenticated session. -/
theorem state_of_checks {i : HybridInput}
    (h : checks ((hybridMachine platform).entry s i) ≠ []) :
    s.engine.state = .kChallengeSent ∨ s.engine.state = .kAuthenticated := by
  rcases checks_cases platform s i with hnone | ⟨-, -, -, ⟨-, hbefore, -⟩ | ⟨-, hauth⟩⟩
  · exact absurd hnone h
  · exact Or.inl hbefore
  · exact Or.inr hauth

/-- A check that fails revokes the session. -/
theorem revoked_of_failedCheck {i : HybridInput}
    (h : FailedCheck ((hybridMachine platform).entry s i)) :
    (hybridStep platform s i).2.engine.state = .kRevoked := by
  obtain ⟨status, hmem, hne⟩ := h
  rcases checks_cases platform s i with hnone | ⟨status', hone, hfailed, -⟩
  · rw [hnone] at hmem
    exact absurd hmem List.not_mem_nil
  · rw [hone, List.mem_singleton] at hmem
    exact hfailed (hmem ▸ hne)

/-- **Two tries are a reset apart.** Let a step of a run check a signature, classical or
post-quantum, that is not accepted. Before any signature is checked again, whatever is called, there
is a reset and after it a new challenge. -/
theorem failed_checks_apart {is : List HybridInput} {pre mid post : List (HybridEntry σ)}
    {e f : HybridEntry σ}
    (hrun : (hybridMachine platform).history (HybridSystem.start peerTable peerCount s₀) is =
      pre ++ e :: (mid ++ f :: post))
    (hfailed : FailedCheck e) (hcheck : checks f ≠ []) :
    ∃ r q, [r, q].Sublist mid ∧ r.input = .reset ∧ RequestOk q := by
  obtain ⟨is₁, i, is₂, -, -, rfl, hrest⟩ := (hybridMachine platform).history_eq_append_cons hrun
  obtain ⟨js₁, j, js₂, -, rfl, rfl, -⟩ :=
    (hybridMachine platform).history_eq_append_cons hrest.symm
  have hrecovered : Recovered _ _ := (hybridMachine platform).run_induction (P := Recovered)
    (recovered_nil (revoked_of_failedCheck hfailed)) (fun _ _ i inv => recovered_step inv i) js₁
  rcases state_of_checks hcheck with hstate | hstate
  · exact hrecovered.challengeSent hstate
  · obtain ⟨r, q, p, hsub, hreset, hrequest, -⟩ := hrecovered.authenticated hstate
    exact ⟨r, q, (List.sublist_append_left [r, q] [p]).trans hsub, hreset, hrequest⟩

/-- A platform to which every classical signature is a forgery. -/
def rejectingPlatform : Platform PUnit :=
  Oracle.ofFun fun
    | .verifyEccSignature _ _ _ => .kVerifyFailed
    | q => (obligingPlatform.answer ⟨⟩ q).1

/-- `failed_checks_apart` for two handshakes whose signatures are forgeries. -/
theorem failed_checks_apart_rejecting :
    let machine := hybridMachine rejectingPlatform
    let s := machine.final plainStart plainHandshake
    ∃ r q, [r, q].Sublist (machine.history s (.reset :: plainHandshake.take 1)) ∧
      r.input = .reset ∧ RequestOk q := by
  intro machine s
  let t := machine.final plainStart (plainHandshake.take 1)
  let u := machine.final s (.reset :: plainHandshake.take 1)
  let response := plainHandshake.get ⟨1, Nat.one_lt_two⟩
  have hrun : machine.history plainStart (plainHandshake ++ .reset :: plainHandshake) =
      machine.history plainStart (plainHandshake.take 1) ++
        machine.entry t response ::
          (machine.history s (.reset :: plainHandshake.take 1) ++ machine.entry u response :: []) :=
    rfl
  have hfailed : FailedCheck (machine.entry t response) :=
    ⟨.kVerifyFailed, by decide +kernel, CryptoStatus.noConfusion⟩
  have hcheck : checks (machine.entry u response) ≠ [] := by decide +kernel
  exact failed_checks_apart hrun hfailed hcheck

end runs

end SotifPlausibility.Zzta
