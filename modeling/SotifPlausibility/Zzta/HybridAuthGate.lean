import SotifPlausibility.Found.Machine
import SotifPlausibility.Zzta.SpdmProtocolEngine

/-!
# The hybrid gate and its engine

The gate checks a second, post-quantum signature on top of a finished handshake, and revokes the
session when that check fails.

* `HybridAuthGate.confirmHybrid` follows the source; `confirmHybrid_yields` is all it can do.
* `hybridMachine` — one engine and one gate over any platform: calls of the engine and the gate in
  any order, with any arguments, and any replies.
* `RequestOk`, `ResponseOk`, `EndsSession` — the steps that matter, read off inputs and outputs;
  `KeepsSession` — the others.
* `hybridStep_cases` — the five kinds of step.

Source: `HybridAuthGate.hpp`, `HybridAuthGate.cpp`.
-/

namespace SotifPlausibility.Zzta

open SotifPlausibility.Found

/-! ### The gate -/

/-- The gate has no state; its signature provider is the oracle its programs run under. The message
has the shape the classical signature covers.
Source: `HybridAuthGate.cpp`, `HybridAuthGate::ConfirmHybrid`. -/
def HybridAuthGate.confirmHybrid (engine : SpdmProtocolEngine) (clientId : ClientId)
    (peerPqcPublicKey : PqcSigPublicKey) (peerPqcSignature : PqcSignature) (sessionNonce : Nonce) :
    PlatformProg SpdmOutcome :=
  if engine.state ≠ .kAuthenticated then
    pure { status := .kInvalidState, engine }
  else do
    let pqcStatus ← pqcVerify peerPqcPublicKey (challengeMsg sessionNonce clientId).toList
      peerPqcSignature
    if pqcStatus = .kOk then
      pure { status := .kOk, engine }
    else
      pure { status := .kSignatureInvalid, engine := engine.revoke }

/-- **What a confirmation can do.** Without an authenticated session it is refused. Otherwise it
makes one check of the signature, which leaves the engine alone or revokes the session. -/
theorem confirmHybrid_yields {engine : SpdmProtocolEngine} {clientId : ClientId}
    {publicKey : PqcSigPublicKey} {signature : PqcSignature} {nonce : Nonce}
    {calls : List PlatformCall} {out : SpdmOutcome}
    (h : (HybridAuthGate.confirmHybrid engine clientId publicKey signature nonce).Yields calls
      out) :
    (engine.state ≠ .kAuthenticated ∧ calls = [] ∧ out = { status := .kInvalidState, engine }) ∨
      (engine.state = .kAuthenticated ∧ ∃ status : CryptoStatus,
        calls = [⟨.pqcVerify publicKey (challengeMsg nonce clientId).toList signature, status⟩] ∧
          ((status = .kOk ∧ out = { status := .kOk, engine }) ∨
            (status ≠ .kOk ∧
              out = { status := .kSignatureInvalid, engine := engine.revoke }))) := by
  unfold HybridAuthGate.confirmHybrid pqcVerify at h
  split_ifs at h with hstate
  · obtain ⟨rfl, rfl⟩ := h
    exact Or.inl ⟨hstate, rfl, rfl⟩
  · obtain ⟨status, calls₁, rest₁, rfl, hcall, h₁⟩ := OracleProg.yields_bind.mp h
    obtain rfl := OracleProg.yields_call.mp hcall
    refine Or.inr ⟨not_not.mp hstate, status, ?_⟩
    split_ifs at h₁ with hstatus
    · obtain ⟨rfl, rfl⟩ := h₁
      exact ⟨rfl, Or.inl ⟨hstatus, rfl⟩⟩
    · obtain ⟨rfl, rfl⟩ := h₁
      exact ⟨rfl, Or.inr ⟨hstatus, rfl⟩⟩

/-! ### The machine -/

/-- An engine, and the state of the platform. -/
structure HybridSystem (σ : Type) where
  engine : SpdmProtocolEngine
  platform : σ

/-- What can be called. -/
inductive HybridInput where
  | processAuthRequest (request : SpdmAuthRequest)
  | processAuthResponse (response : SpdmAuthResponse) (sessionTokenOut : SpdmSessionToken)
  | revoke
  | reset
  | confirmHybrid (clientId : ClientId) (peerPqcPublicKey : PqcSigPublicKey)
      (peerPqcSignature : PqcSignature) (sessionNonce : Nonce)

/-- What a call shows: its status, the token it filled, the calls it made of the platform. -/
structure HybridOutput where
  status : Option SpdmStatus := none
  sessionTokenOut : Option SpdmSessionToken := none
  calls : List PlatformCall := []

section machine

variable {σ : Type} (platform : Platform σ)

/-- The step of the machine. -/
def hybridStep (s : HybridSystem σ) : HybridInput → HybridOutput × HybridSystem σ
  | .processAuthRequest request =>
      let ran := (s.engine.processAuthRequest request).run platform s.platform
      ({ status := some ran.value.status, calls := ran.calls },
        { engine := ran.value.engine, platform := ran.oracle })
  | .processAuthResponse response sessionTokenOut =>
      let ran := (s.engine.processAuthResponse response sessionTokenOut).run platform s.platform
      ({ status := some ran.value.status, sessionTokenOut := some ran.value.sessionTokenOut
         calls := ran.calls }, { engine := ran.value.engine, platform := ran.oracle })
  | .revoke => ({}, { s with engine := s.engine.revoke })
  | .reset => ({}, { s with engine := s.engine.reset })
  | .confirmHybrid clientId peerPqcPublicKey peerPqcSignature sessionNonce =>
      let ran := (HybridAuthGate.confirmHybrid s.engine clientId peerPqcPublicKey peerPqcSignature
        sessionNonce).run platform s.platform
      ({ status := some ran.value.status, calls := ran.calls },
        { engine := ran.value.engine, platform := ran.oracle })

/-- The engine and the gate over a platform. -/
def hybridMachine : Machine (HybridSystem σ) HybridInput HybridOutput := ⟨hybridStep platform⟩

@[simp] theorem hybridMachine_step (s : HybridSystem σ) (i : HybridInput) :
    (hybridMachine platform).step s i = hybridStep platform s i := rfl

end machine

/-- A step of a run. -/
abbrev HybridEntry (σ : Type) := Entry (HybridSystem σ) HybridInput HybridOutput

/-- A new engine. -/
def HybridSystem.start {σ : Type} (peerTable : Option (List KnownPeerEntry)) (peerCount : ℕ)
    (platform : σ) : HybridSystem σ :=
  { engine := SpdmProtocolEngine.new peerTable peerCount, platform }

/-- A new engine is not authenticated. -/
theorem HybridSystem.start_not_authenticated {σ : Type} (peerTable : Option (List KnownPeerEntry))
    (peerCount : ℕ) (platform : σ) :
    (HybridSystem.start peerTable peerCount platform).engine.state ≠ .kAuthenticated :=
  SpdmState.noConfusion

/-! ### Steps -/

section steps

variable {σ : Type}

/-- A request that succeeded. -/
def RequestOk (e : HybridEntry σ) : Prop :=
  (∃ request, e.input = .processAuthRequest request) ∧ e.output.status = some .kOk

/-- A response that succeeded. -/
def ResponseOk (e : HybridEntry σ) : Prop :=
  (∃ response token, e.input = .processAuthResponse response token) ∧ e.output.status = some .kOk

/-- A response that succeeded, and what it did: the digest of the challenge and the client was
computed, and the platform accepted the response's signature over it under the key of the client. -/
def SignedResponse (e : HybridEntry σ) : Prop :=
  ResponseOk e ∧ ∃ response token digest key rest,
    e.input = .processAuthResponse response token ∧
      e.before.engine.findPeerPublicKey response.clientId = some key ∧
      e.output.calls =
        ⟨.computeSha256 (e.before.engine.pendingNonce.toList ++ response.clientId.toList),
          (.kOk, digest)⟩ ::
        ⟨.verifyEccSignature digest response.signature key, .kOk⟩ :: rest

/-- A step that ends a session: `Revoke`, `Reset` or a confirmation that found the signature
invalid. -/
def EndsSession (e : HybridEntry σ) : Prop :=
  e.input = .revoke ∨ e.input = .reset ∨
    (∃ clientId publicKey signature nonce,
      e.input = .confirmHybrid clientId publicKey signature nonce) ∧
      e.output.status = some .kSignatureInvalid

/-- The message whose digest a classical signature was checked over, in the calls of a response. -/
def signedChallenge : List PlatformCall → Option (List UInt8)
  | ⟨.computeSha256 message, hash⟩ :: ⟨.verifyEccSignature digest _ _, status⟩ :: _ =>
      if digest = hash.2 ∧ status = .kOk then some message else none
  | _ => none

/-- A step that neither ends a session nor starts one: it leaves the state, and an authenticated
session as a whole, alone. -/
structure KeepsSession (e : HybridEntry σ) : Prop where
  endsSession : ¬ EndsSession e
  responseOk : ¬ ResponseOk e
  state : e.after.engine.state = e.before.engine.state
  engine : e.before.engine.state = .kAuthenticated → e.after.engine = e.before.engine

/-- No message of a handshake ends a session. -/
theorem not_endsSession_of_handshake {e : HybridEntry σ}
    (h : (∃ request, e.input = .processAuthRequest request) ∨
      ∃ response token, e.input = .processAuthResponse response token) : ¬ EndsSession e := by
  rintro (hinput | hinput | ⟨⟨clientId, publicKey, signature, nonce, hinput⟩, -⟩) <;>
    rcases h with ⟨request, h⟩ | ⟨response, token, h⟩ <;>
      exact HybridInput.noConfusion (h.symm.trans hinput)

/-- A confirmation that finds the signature valid, or does not check it, keeps the session. -/
theorem keepsSession_of_confirm {e : HybridEntry σ} {clientId : ClientId}
    {publicKey : PqcSigPublicKey} {signature : PqcSignature} {nonce : Nonce}
    (hinput : e.input = .confirmHybrid clientId publicKey signature nonce)
    (hstatus : e.output.status ≠ some .kSignatureInvalid)
    (hengine : e.after.engine = e.before.engine) : KeepsSession e where
  endsSession := by
    rintro (h | h | ⟨-, h⟩)
    · exact HybridInput.noConfusion (hinput.symm.trans h)
    · exact HybridInput.noConfusion (hinput.symm.trans h)
    · exact hstatus h
  responseOk := by
    rintro ⟨⟨response, token, h⟩, -⟩
    exact HybridInput.noConfusion (hinput.symm.trans h)
  state := congrArg _ hengine
  engine := fun _ => hengine

/-- **A response succeeds on a signature**: over the challenge and the client, under the key of the
client. -/
theorem signedResponse_of_responseOk {platform : Platform σ} {s : HybridSystem σ} {i : HybridInput}
    (h : ResponseOk ((hybridMachine platform).entry s i)) :
    SignedResponse ((hybridMachine platform).entry s i) := by
  refine ⟨h, ?_⟩
  obtain ⟨⟨response, token, hinput⟩, hok⟩ := h
  obtain rfl : i = .processAuthResponse response token := hinput
  have hstatus : ((s.engine.processAuthResponse response token).run platform
    s.platform).value.status = .kOk := Option.some.inj hok
  rcases processAuthResponse_yields (OracleProg.yields_run
      (s.engine.processAuthResponse response token) platform s.platform) with
    ⟨hnot, -⟩ | ⟨hnot, -⟩ | ⟨-, -, -, -, digest, key, rest, hpeer, hcalls⟩
  · exact absurd hstatus hnot
  · exact absurd hstatus hnot
  · rw [toList_challengeMsg] at hcalls
    exact ⟨response, token, digest, key, rest, rfl, hpeer, hcalls⟩

/-- **The five kinds of step**: a response that authenticates the client of the challenge, a request
that sends one, a reset, a step that leaves the session revoked, and one that keeps it. -/
theorem hybridStep_cases (platform : Platform σ) (s : HybridSystem σ) (i : HybridInput) :
    let e := (hybridMachine platform).entry s i
    (ResponseOk e ∧ s.engine.state = .kChallengeSent ∧ e.after.engine.state = .kAuthenticated ∧
        signedChallenge e.output.calls = some (challengeMsg e.after.engine.pendingNonce
          e.after.engine.authenticatedClientId).toList) ∨
      (RequestOk e ∧ s.engine.state = .kUnauthenticated ∧
        e.after.engine.state = .kChallengeSent) ∨
      (e.input = .reset ∧ e.after.engine.state = .kUnauthenticated) ∨
      e.after.engine.state = .kRevoked ∨ KeepsSession e := by
  intro e
  cases i with
  | processAuthRequest request =>
      have hends : ¬ EndsSession e := not_endsSession_of_handshake (Or.inl ⟨request, rfl⟩)
      have hresponse : ¬ ResponseOk e := by
        rintro ⟨⟨_, _, hinput⟩, -⟩
        exact HybridInput.noConfusion hinput
      rcases processAuthRequest_yields
          (OracleProg.yields_run (s.engine.processAuthRequest request) platform s.platform) with
        ⟨hstatus, hbefore, hafter⟩ | ⟨-, hafter, hsame⟩
      · exact Or.inr (Or.inl ⟨⟨⟨request, rfl⟩, congrArg some hstatus⟩, hbefore, hafter⟩)
      · refine Or.inr (Or.inr (Or.inr (Or.inr ⟨hends, hresponse, hafter, ?_⟩)))
        intro hauth
        exact hsame fun h => SpdmState.noConfusion (hauth.symm.trans h)
  | processAuthResponse response token =>
      have hends : ¬ EndsSession e :=
        not_endsSession_of_handshake (Or.inr ⟨response, token, rfl⟩)
      rcases processAuthResponse_yields
          (OracleProg.yields_run (s.engine.processAuthResponse response token) platform
            s.platform) with
        ⟨hstatus, -, hsame⟩ | ⟨-, hrevoke⟩ |
        ⟨hstatus, hbefore, -, hafter, digest, key, rest, -, hcalls⟩
      · have hresponse : ¬ ResponseOk e := fun h => hstatus (Option.some.inj h.2)
        exact Or.inr (Or.inr (Or.inr (Or.inr ⟨hends, hresponse, congrArg _ hsame, fun _ => hsame⟩)))
      · exact Or.inr (Or.inr (Or.inr (Or.inl (congrArg _ hrevoke))))
      · have hengine : e.after.engine = { s.engine with
          authenticatedClientId := response.clientId, state := .kAuthenticated } := hafter
        have hlog : e.output.calls = _ := hcalls
        refine Or.inl ⟨⟨⟨response, token, rfl⟩, congrArg some hstatus⟩, hbefore, ?_, ?_⟩
        · rw [hengine]
        · rw [hengine, hlog]
          simp [signedChallenge]
  | revoke => exact Or.inr (Or.inr (Or.inr (Or.inl rfl)))
  | reset => exact Or.inr (Or.inr (Or.inl ⟨rfl, rfl⟩))
  | confirmHybrid clientId publicKey signature nonce =>
      rcases confirmHybrid_yields (OracleProg.yields_run
          (HybridAuthGate.confirmHybrid s.engine clientId publicKey signature nonce) platform
            s.platform) with
        ⟨-, -, hout⟩ | ⟨-, status, -, ⟨-, hout⟩ | ⟨-, hout⟩⟩
      · have hstatus : e.output.status = some .kInvalidState :=
          congrArg (fun out : SpdmOutcome => some out.status) hout
        exact Or.inr (Or.inr (Or.inr (Or.inr (keepsSession_of_confirm rfl (by simp [hstatus])
          (congrArg (·.engine) hout)))))
      · have hstatus : e.output.status = some .kOk :=
          congrArg (fun out : SpdmOutcome => some out.status) hout
        exact Or.inr (Or.inr (Or.inr (Or.inr (keepsSession_of_confirm rfl (by simp [hstatus])
          (congrArg (·.engine) hout)))))
      · have hengine : e.after.engine = s.engine.revoke := congrArg (·.engine) hout
        exact Or.inr (Or.inr (Or.inr (Or.inl (congrArg _ hengine))))

end steps

end SotifPlausibility.Zzta
