import SotifPlausibility.Zzta.HybridAuthGate

/-!
# Hybrid sessions over whole runs

Whatever the order of calls and whatever the platform replies, a confirmation succeeds only on top
of a handshake that succeeded and was not ended since, and a failed signature ends the session for
good: only a new handshake leads to another success.

* `authenticated_since` — an authenticated engine had a response that succeeded on a signature the
  platform accepted, and nothing ended the session since.
* `Rehandshake`, `rehandshake_of_authenticated` — what lies between a revoked engine and an
  authenticated one: a reset, a request and a response, in this order.
* `hybrid_needs_both` — the result.
-/

namespace SotifPlausibility.Zzta

open SotifPlausibility.Found

section sessions

variable {σ : Type} {platform : Platform σ} {s : HybridSystem σ}

/-! ### From authenticated back to the handshake -/

/-- In a run from an engine that is not authenticated, an authenticated engine had a response that
succeeded on a signature the platform accepted, and nothing ended the session since. -/
theorem authenticated_since (hs : s.engine.state ≠ .kAuthenticated) (is : List HybridInput) :
    ((hybridMachine platform).final s is).engine.state = .kAuthenticated →
      Since (fun e => ¬ EndsSession e) SignedResponse ((hybridMachine platform).history s is) := by
  apply (hybridMachine platform).run_induction (P := fun h t =>
    t.engine.state = .kAuthenticated → Since (fun e => ¬ EndsSession e) SignedResponse h)
  · intro hauth
    exact absurd hauth hs
  · intro h t i ih hauth
    rw [since_concat]
    rcases hybridStep_cases platform t i with
      ⟨hresponse, -⟩ | ⟨-, -, hafter⟩ | ⟨-, hafter⟩ | hafter | hkeeps
    · exact Or.inl (signedResponse_of_responseOk hresponse)
    · exact SpdmState.noConfusion (hafter.symm.trans hauth)
    · exact SpdmState.noConfusion (hafter.symm.trans hauth)
    · exact SpdmState.noConfusion (hafter.symm.trans hauth)
    · exact Or.inr ⟨hkeeps.endsSession, ih (hkeeps.state.symm.trans hauth)⟩

/-! ### From revoked to authenticated -/

/-- A reset, then a request that succeeded, then a response that succeeded. -/
def Rehandshake (h : List (HybridEntry σ)) : Prop :=
  ∃ r q p, [r, q, p].Sublist h ∧ r.input = .reset ∧ RequestOk q ∧ ResponseOk p

/-- How far an engine that was revoked has come since. -/
structure Recovered (h : List (HybridEntry σ)) (t : HybridSystem σ) : Prop where
  unauthenticated : t.engine.state = .kUnauthenticated → ∃ r, [r].Sublist h ∧ r.input = .reset
  challengeSent : t.engine.state = .kChallengeSent →
    ∃ r q, [r, q].Sublist h ∧ r.input = .reset ∧ RequestOk q
  authenticated : t.engine.state = .kAuthenticated → Rehandshake h

/-- An engine just revoked has come nowhere. -/
theorem recovered_nil (hs : s.engine.state = .kRevoked) : Recovered [] s where
  unauthenticated h := SpdmState.noConfusion (hs.symm.trans h)
  challengeSent h := SpdmState.noConfusion (hs.symm.trans h)
  authenticated h := SpdmState.noConfusion (hs.symm.trans h)

/-- One step of the recovery. -/
theorem recovered_step {h : List (HybridEntry σ)} {t : HybridSystem σ} (inv : Recovered h t)
    (i : HybridInput) :
    Recovered (h ++ [(hybridMachine platform).entry t i]) (hybridStep platform t i).2 := by
  rcases hybridStep_cases platform t i with
    ⟨hresponse, hbefore, hafter, -⟩ | ⟨hrequest, hbefore, hafter⟩ | ⟨hreset, hafter⟩ | hafter |
    hkeeps
  · obtain ⟨r, q, hsub, hr, hq⟩ := inv.challengeSent hbefore
    constructor
    · intro hstate
      exact SpdmState.noConfusion (hafter.symm.trans hstate)
    · intro hstate
      exact SpdmState.noConfusion (hafter.symm.trans hstate)
    · intro _
      exact ⟨r, q, _, hsub.append (List.Sublist.refl _), hr, hq, hresponse⟩
  · obtain ⟨r, hsub, hr⟩ := inv.unauthenticated hbefore
    constructor
    · intro hstate
      exact SpdmState.noConfusion (hafter.symm.trans hstate)
    · intro _
      exact ⟨r, _, hsub.append (List.Sublist.refl _), hr, hrequest⟩
    · intro hstate
      exact SpdmState.noConfusion (hafter.symm.trans hstate)
  · constructor
    · intro _
      exact ⟨_, List.sublist_append_right _ _, hreset⟩
    · intro hstate
      exact SpdmState.noConfusion (hafter.symm.trans hstate)
    · intro hstate
      exact SpdmState.noConfusion (hafter.symm.trans hstate)
  · exact
      { unauthenticated := fun hstate => SpdmState.noConfusion (hafter.symm.trans hstate)
        challengeSent := fun hstate => SpdmState.noConfusion (hafter.symm.trans hstate)
        authenticated := fun hstate => SpdmState.noConfusion (hafter.symm.trans hstate) }
  · constructor
    · intro hstate
      obtain ⟨r, hsub, hr⟩ := inv.unauthenticated (hkeeps.state.symm.trans hstate)
      exact ⟨r, hsub.trans (List.sublist_append_left _ _), hr⟩
    · intro hstate
      obtain ⟨r, q, hsub, hr, hq⟩ := inv.challengeSent (hkeeps.state.symm.trans hstate)
      exact ⟨r, q, hsub.trans (List.sublist_append_left _ _), hr, hq⟩
    · intro hstate
      obtain ⟨r, q, p, hsub, hr, hq, hp⟩ := inv.authenticated (hkeeps.state.symm.trans hstate)
      exact ⟨r, q, p, hsub.trans (List.sublist_append_left _ _), hr, hq, hp⟩

/-- **A revoked engine is authenticated again only by a reset, a request and a response.** -/
theorem rehandshake_of_authenticated (hs : s.engine.state = .kRevoked) (is : List HybridInput)
    (hauth : ((hybridMachine platform).final s is).engine.state = .kAuthenticated) :
    Rehandshake ((hybridMachine platform).history s is) :=
  ((hybridMachine platform).run_induction (recovered_nil hs)
    (fun _ _ i inv => recovered_step inv i) is).authenticated hauth

/-! ### Confirmations -/

variable {clientId : ClientId} {publicKey : PqcSigPublicKey} {signature : PqcSignature}
  {nonce : Nonce}

/-- A confirmation without an authenticated session makes no call and changes nothing. -/
theorem confirm_refused (platform : Platform σ) (clientId : ClientId)
    (publicKey : PqcSigPublicKey) (signature : PqcSignature) (nonce : Nonce)
    (hstate : s.engine.state ≠ .kAuthenticated) :
    hybridStep platform s (.confirmHybrid clientId publicKey signature nonce) =
      ({ status := some .kInvalidState }, s) := by
  unfold hybridStep HybridAuthGate.confirmHybrid
  dsimp only
  rw [if_pos hstate]
  rfl

/-- A confirmation that succeeds: the session was authenticated, the signature was accepted, and the
engine is left alone. -/
theorem confirm_ok
    (hok : (hybridStep platform s (.confirmHybrid clientId publicKey signature nonce)).1.status =
      some .kOk) :
    s.engine.state = .kAuthenticated ∧
      (hybridStep platform s (.confirmHybrid clientId publicKey signature nonce)).1.calls =
        [⟨.pqcVerify publicKey (challengeMsg nonce clientId).toList signature, .kOk⟩] ∧
      (hybridStep platform s (.confirmHybrid clientId publicKey signature nonce)).2.engine =
        s.engine := by
  have hok : ((HybridAuthGate.confirmHybrid s.engine clientId publicKey signature nonce).run
    platform s.platform).value.status = .kOk := Option.some.inj hok
  rcases confirmHybrid_yields (OracleProg.yields_run
      (HybridAuthGate.confirmHybrid s.engine clientId publicKey signature nonce) platform
        s.platform) with
    ⟨-, -, hout⟩ | ⟨hstate, status, hcalls, ⟨hstatus, hout⟩ | ⟨-, hout⟩⟩
  · rw [hout] at hok
    exact SpdmStatus.noConfusion hok
  · refine ⟨hstate, ?_, congrArg (·.engine) hout⟩
    rw [← hstatus]
    exact hcalls
  · rw [hout] at hok
    exact SpdmStatus.noConfusion hok

/-- A confirmation that succeeded. -/
def ConfirmOk (e : HybridEntry σ) : Prop :=
  (∃ clientId publicKey signature nonce,
    e.input = .confirmHybrid clientId publicKey signature nonce) ∧ e.output.status = some .kOk

/-- Only an authenticated session is confirmed. -/
theorem authenticated_of_confirmOk {i : HybridInput}
    (h : ConfirmOk ((hybridMachine platform).entry s i)) : s.engine.state = .kAuthenticated := by
  obtain ⟨⟨clientId, publicKey, signature, nonce, hinput⟩, hok⟩ := h
  obtain rfl : i = .confirmHybrid clientId publicKey signature nonce := hinput
  exact (confirm_ok hok).1

/-- A confirmation whose signature was not accepted revokes the session. -/
theorem confirm_invalid {call : PlatformCall} {status : CryptoStatus}
    (hcall : call ∈
      (hybridStep platform s (.confirmHybrid clientId publicKey signature nonce)).1.calls)
    (hpqc : call.pqcStatus = some status) (hstatus : status ≠ .kOk) :
    (hybridStep platform s (.confirmHybrid clientId publicKey signature nonce)).1.status =
        some .kSignatureInvalid ∧
      (hybridStep platform s (.confirmHybrid clientId publicKey signature nonce)).2.engine =
        s.engine.revoke := by
  have hcall : call ∈ ((HybridAuthGate.confirmHybrid s.engine clientId publicKey signature
    nonce).run platform s.platform).calls := hcall
  rcases confirmHybrid_yields (OracleProg.yields_run
      (HybridAuthGate.confirmHybrid s.engine clientId publicKey signature nonce) platform
        s.platform) with
    ⟨-, hcalls, -⟩ | ⟨-, reply, hcalls, ⟨hok, -⟩ | ⟨-, hout⟩⟩
  · rw [hcalls] at hcall
    exact absurd hcall List.not_mem_nil
  · rw [hcalls, List.mem_singleton] at hcall
    rw [hcall] at hpqc
    exact absurd ((Option.some.inj hpqc).symm.trans hok) hstatus
  · exact ⟨congrArg (fun out : SpdmOutcome => some out.status) hout, congrArg (·.engine) hout⟩

/-! ### The result -/

section result

variable {peerTable : Option (List KnownPeerEntry)} {peerCount : ℕ} {s₀ : σ}
  {is : List HybridInput} {pre post : List (HybridEntry σ)} {e : HybridEntry σ}

/-- **A hybrid authentication needs both signatures.** In every run of an engine and its gate, over
any platform, a confirmation that succeeds has a handshake before it that succeeded on a classical
signature over the challenge and the client and was not ended since, and the post-quantum signature
over the nonce and the client was accepted; it leaves the engine alone. One whose signature was not
accepted revokes the session, and the next to succeed comes after a new handshake. Without an
authenticated session a confirmation does nothing. -/
theorem hybrid_needs_both
    (hrun : (hybridMachine platform).history (HybridSystem.start peerTable peerCount s₀) is =
      pre ++ e :: post)
    (hinput : e.input = .confirmHybrid clientId publicKey signature nonce) :
    (e.output.status = some .kOk →
        Since (fun f => ¬ EndsSession f) SignedResponse pre ∧
          e.output.calls =
            [⟨.pqcVerify publicKey (nonce.toList ++ clientId.toList) signature, .kOk⟩] ∧
          e.after.engine = e.before.engine) ∧
      (∀ call ∈ e.output.calls, ∀ status, call.pqcStatus = some status → status ≠ .kOk →
        e.output.status = some .kSignatureInvalid ∧ e.after.engine.state = .kRevoked ∧
          e.after.engine.pendingNonce = Bytes.zeros 32 ∧
          e.after.engine.pendingClientId = Bytes.zeros 8 ∧
          ∀ mid f post', post = mid ++ f :: post' → ConfirmOk f → Rehandshake mid) ∧
      (e.before.engine.state ≠ .kAuthenticated →
        e.output.status = some .kInvalidState ∧ e.output.calls = [] ∧ e.after = e.before) := by
  obtain ⟨is₁, i, is₂, -, rfl, rfl, rfl⟩ := (hybridMachine platform).history_eq_append_cons hrun
  obtain rfl : i = .confirmHybrid clientId publicKey signature nonce := hinput
  refine ⟨?_, ?_, ?_⟩
  · intro hok
    obtain ⟨hauth, hcalls, hengine⟩ := confirm_ok hok
    rw [toList_challengeMsg] at hcalls
    have hstart := HybridSystem.start_not_authenticated peerTable peerCount s₀
    exact ⟨authenticated_since hstart is₁ hauth, hcalls, hengine⟩
  · intro call hcall status hpqc hstatus
    obtain ⟨hinvalid, hengine⟩ := confirm_invalid hcall hpqc hstatus
    have hrevoked : ((hybridMachine platform).step ((hybridMachine platform).final
        (HybridSystem.start peerTable peerCount s₀) is₁)
          (.confirmHybrid clientId publicKey signature nonce)).2.engine =
        ((hybridMachine platform).final
          (HybridSystem.start peerTable peerCount s₀) is₁).engine.revoke := hengine
    refine ⟨hinvalid, congrArg (·.state) hengine, congrArg (·.pendingNonce) hengine,
      congrArg (·.pendingClientId) hengine, ?_⟩
    intro mid f post' hpost hf
    obtain ⟨is₃, j, -, -, rfl, rfl, -⟩ := (hybridMachine platform).history_eq_append_cons hpost
    exact rehandshake_of_authenticated (congrArg (·.state) hrevoked) is₃
      (authenticated_of_confirmOk hf)
  · intro hstate
    have hstep := confirm_refused platform clientId publicKey signature nonce hstate
    exact ⟨congrArg (·.1.status) hstep, congrArg (·.1.calls) hstep, congrArg (·.2) hstep⟩

/-- A known peer, the zero client. -/
def plainPeers : List KnownPeerEntry := [{ clientId := Bytes.zeros 8, publicKey := Bytes.zeros 33 }]

/-- A request and a response of the zero client. -/
def plainHandshake : List HybridInput :=
  [.processAuthRequest { clientId := Bytes.zeros 8, version := kSupportedVersion },
    .processAuthResponse { clientId := Bytes.zeros 8, signature := Bytes.zeros 64 }
      { clientId := Bytes.zeros 8, sessionNonce := Bytes.zeros 32, sessionKey := Bytes.zeros 32 }]

/-- A confirmation for the zero client and the zero nonce. -/
def plainConfirmation : HybridInput :=
  .confirmHybrid (Bytes.zeros 8) (Bytes.zeros 1952) (Bytes.zeros 3309) (Bytes.zeros 32)

/-- A new engine that knows the zero client. -/
def plainStart : HybridSystem PUnit := HybridSystem.start (some plainPeers) 1 ⟨⟩

/-- `hybrid_needs_both` for the confirmation of a plain handshake. -/
theorem hybrid_needs_both_plainHandshake :
    Since (fun f => ¬ EndsSession f) SignedResponse
      ((hybridMachine obligingPlatform).history plainStart plainHandshake) := by
  have hrun := (hybridMachine obligingPlatform).history_concat plainStart plainHandshake
    plainConfirmation
  exact ((hybrid_needs_both hrun rfl).1 (by decide +kernel)).1

end result

end sessions

end SotifPlausibility.Zzta
