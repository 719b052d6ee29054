import SotifPlausibility.Zzta.HybridAuthGate

/-!
# What an engine holds

An engine keeps a state and three buffers, of which most combinations never occur. Over any
platform, and under any order of calls:

* `Handshake` — what an engine stands for: how far a handshake has got, with the peer and the nonce
  it is about. `Handshake.engine` is the engine that holds it.
* `handshake_step` — every step of an engine and its gate leads from one to another.
* `reachable_engines_iff` — the engines of all runs are those of the handshakes, and no others.

Source: `SpdmProtocolEngine.cpp`, `HybridAuthGate.cpp`.
-/

namespace SotifPlausibility.Zzta

open SotifPlausibility.Found

section table

variable (peerTable : Option (List KnownPeerEntry)) (peerCount : ℕ)

/-- A client whose key an engine finds. -/
def Peer : Type :=
  { clientId : ClientId //
    ((SpdmProtocolEngine.new peerTable peerCount).findPeerPublicKey clientId).isSome = true }

/-- How far a handshake has got. -/
inductive Handshake where
  | idle
  /-- The platform failed to make a nonce for a peer, and this is what it left. -/
  | noNonce (peer : Peer peerTable peerCount) (left : Nonce)
  | challenged (peer : Peer peerTable peerCount) (nonce : Nonce)
  | authenticated (peer : Peer peerTable peerCount) (nonce : Nonce)
  /-- The session was revoked, after the peer was authenticated or before. -/
  | revoked (last : Option (Peer peerTable peerCount))

end table

variable {peerTable : Option (List KnownPeerEntry)} {peerCount : ℕ}

namespace Handshake

/-- The engine that holds a handshake. The nonce stays while the session lasts; revoking clears it,
and leaves the peer that was authenticated. -/
def engine : Handshake peerTable peerCount → SpdmProtocolEngine
  | idle => SpdmProtocolEngine.new peerTable peerCount
  | noNonce _ left => { SpdmProtocolEngine.new peerTable peerCount with pendingNonce := left }
  | challenged peer nonce =>
      { SpdmProtocolEngine.new peerTable peerCount with
        state := .kChallengeSent, pendingNonce := nonce, pendingClientId := peer.val }
  | authenticated peer nonce =>
      { SpdmProtocolEngine.new peerTable peerCount with
        state := .kAuthenticated, pendingNonce := nonce, pendingClientId := peer.val
        authenticatedClientId := peer.val }
  | revoked none => { SpdmProtocolEngine.new peerTable peerCount with state := .kRevoked }
  | revoked (some peer) =>
      { SpdmProtocolEngine.new peerTable peerCount with
        state := .kRevoked, authenticatedClientId := peer.val }

variable (hs : Handshake peerTable peerCount)

/-- The handshake after it is revoked. -/
def revoke : Handshake peerTable peerCount → Handshake peerTable peerCount
  | authenticated peer _ => revoked (some peer)
  | revoked last => revoked last
  | _ => revoked none

/-- A revoked engine is one of this form. -/
theorem engine_revoke : hs.engine.revoke = hs.revoke.engine := by
  rcases hs with _ | _ | _ | _ | (_ | _) <;> rfl

/-- A reset engine is one of this form. -/
theorem engine_reset : hs.engine.reset = (idle : Handshake peerTable peerCount).engine := by
  rcases hs with _ | _ | _ | _ | (_ | _) <;> rfl

/-- The peers of an engine never change. -/
theorem findPeerPublicKey_engine (clientId : ClientId) :
    hs.engine.findPeerPublicKey clientId =
      (SpdmProtocolEngine.new peerTable peerCount).findPeerPublicKey clientId := by
  rcases hs with _ | _ | _ | _ | (_ | _) <;> rfl

/-- Only the engine of a new handshake is unauthenticated. -/
theorem unauthenticated_cases (h : hs.engine.state = .kUnauthenticated) :
    hs = idle ∨ ∃ peer left, hs = noNonce peer left := by
  rcases hs with _ | ⟨peer, left⟩ | _ | _ | (_ | _)
  · exact Or.inl rfl
  · exact Or.inr ⟨peer, left, rfl⟩
  all_goals exact SpdmState.noConfusion h

/-- An engine of this form with a challenge in flight. -/
theorem challengeSent_cases (h : hs.engine.state = .kChallengeSent) :
    ∃ peer nonce, hs = challenged peer nonce := by
  rcases hs with _ | _ | ⟨peer, nonce⟩ | _ | (_ | _)
  case challenged => exact ⟨peer, nonce, rfl⟩
  all_goals exact SpdmState.noConfusion h

end Handshake

/-! ### Steps -/

/-- **What a request writes**: nothing; or, for a peer of an idle engine, the nonce of the platform,
and the client if that succeeded. -/
theorem processAuthRequest_writes {engine : SpdmProtocolEngine} {request : SpdmAuthRequest}
    {calls : List PlatformCall} {out : SpdmOutcome}
    (h : (engine.processAuthRequest request).Yields calls out) :
    out.engine = engine ∨
      (engine.state = .kUnauthenticated ∧
        (engine.findPeerPublicKey request.clientId).isSome = true ∧
        ∃ nonce, out.engine = { engine with pendingNonce := nonce } ∨
          out.engine = { engine with pendingNonce := nonce, pendingClientId := request.clientId
                                     state := .kChallengeSent }) := by
  unfold SpdmProtocolEngine.processAuthRequest generateRandomNonce at h
  split_ifs at h with hstate hauth hversion hpeer
  · exact Or.inl (congrArg SpdmOutcome.engine h.2)
  · exact Or.inl (congrArg SpdmOutcome.engine h.2)
  · exact Or.inl (congrArg SpdmOutcome.engine h.2)
  · exact Or.inl (congrArg SpdmOutcome.engine h.2)
  · obtain ⟨nonce, calls₁, rest₁, rfl, hcall, h₁⟩ := OracleProg.yields_bind.mp h
    refine Or.inr ⟨not_not.mp hstate, Option.isSome_iff_ne_none.mpr
      (mt Option.isNone_iff_eq_none.mpr hpeer), nonce.2, ?_⟩
    split_ifs at h₁ with hnonce
    · exact Or.inl (congrArg SpdmOutcome.engine h₁.2)
    · exact Or.inr (congrArg SpdmOutcome.engine h₁.2)

section runs

/-- **One step** leads from the engine of one handshake to that of another. -/
theorem handshake_step {σ : Type} (platform : Platform σ) (hs : Handshake peerTable peerCount)
    (t : σ) (i : HybridInput) :
    ∃ hs' : Handshake peerTable peerCount,
      (hybridStep platform { engine := hs.engine, platform := t } i).2.engine = hs'.engine := by
  cases i with
  | processAuthRequest request =>
      rcases processAuthRequest_writes (OracleProg.yields_run
          (hs.engine.processAuthRequest request) platform t) with
        hsame | ⟨hstate, hpeer, nonce, hwrites⟩
      · exact ⟨hs, hsame⟩
      · rw [hs.findPeerPublicKey_engine] at hpeer
        have hfresh : { hs.engine with pendingNonce := nonce } =
            (Handshake.noNonce (⟨request.clientId, hpeer⟩ : Peer peerTable peerCount)
              nonce).engine := by
          rcases hs.unauthenticated_cases hstate with rfl | ⟨_, _, rfl⟩ <;> rfl
        rcases hwrites with hleft | hsent
        · exact ⟨_, hleft.trans hfresh⟩
        · refine ⟨.challenged ⟨request.clientId, hpeer⟩ nonce, hsent.trans ?_⟩
          exact congrArg (fun engine : SpdmProtocolEngine => { engine with
            pendingClientId := request.clientId, state := .kChallengeSent }) hfresh
  | processAuthResponse response token =>
      rcases processAuthResponse_yields (OracleProg.yields_run
          (hs.engine.processAuthResponse response token) platform t) with
        ⟨-, -, hsame⟩ | ⟨-, hrevoke⟩ | ⟨-, hstate, hclient, hafter, -⟩
      · exact ⟨hs, hsame⟩
      · exact ⟨hs.revoke, hrevoke.trans hs.engine_revoke⟩
      · obtain ⟨peer, nonce, rfl⟩ := hs.challengeSent_cases hstate
        have hpeer : response.clientId = peer.val := hclient
        rw [hpeer] at hafter
        exact ⟨.authenticated peer nonce, hafter⟩
  | revoke => exact ⟨hs.revoke, hs.engine_revoke⟩
  | reset => exact ⟨.idle, hs.engine_reset⟩
  | confirmHybrid clientId publicKey signature nonce =>
      rcases confirmHybrid_yields (OracleProg.yields_run
          (HybridAuthGate.confirmHybrid hs.engine clientId publicKey signature nonce) platform t)
        with ⟨-, -, hout⟩ | ⟨-, status, -, ⟨-, hout⟩ | ⟨-, hout⟩⟩
      · exact ⟨hs, congrArg SpdmOutcome.engine hout⟩
      · exact ⟨hs, congrArg SpdmOutcome.engine hout⟩
      · exact ⟨hs.revoke, (congrArg SpdmOutcome.engine hout).trans hs.engine_revoke⟩

/-- A run ends with the engine of a handshake. -/
theorem handshake_run {σ : Type} (platform : Platform σ) (s₀ : σ) (is : List HybridInput) :
    ∃ hs : Handshake peerTable peerCount,
      ((hybridMachine platform).final (HybridSystem.start peerTable peerCount s₀) is).engine =
        hs.engine := by
  apply (hybridMachine platform).final_induction
    (P := fun s => ∃ hs : Handshake peerTable peerCount, s.engine = hs.engine)
  · exact ⟨.idle, rfl⟩
  · rintro ⟨engine, t⟩ i ⟨hs, h⟩
    obtain rfl : engine = hs.engine := h
    exact handshake_step platform hs t i

/-! ### Runs that lead to a handshake -/

/-- A platform that makes one nonce, or fails to, and on which all else succeeds. -/
def noncePlatform (nonce : CryptoStatus × Nonce) : Platform PUnit :=
  Oracle.ofFun fun
    | .generateRandomNonce _ => nonce
    | q => (obligingPlatform.answer ⟨⟩ q).1

/-- A request of a peer. -/
def peerRequest (peer : Peer peerTable peerCount) : HybridInput :=
  .processAuthRequest { version := kSupportedVersion, clientId := peer.val }

/-- A response of a peer. -/
def peerResponse (peer : Peer peerTable peerCount) : HybridInput :=
  .processAuthResponse { clientId := peer.val, signature := Bytes.zeros 64 }
    { clientId := Bytes.zeros 8, sessionNonce := Bytes.zeros 32, sessionKey := Bytes.zeros 32 }

/-- The request of a peer leaves it with a challenge, or what a failure left. -/
theorem step_peerRequest (peer : Peer peerTable peerCount) (nonce : CryptoStatus × Nonce) :
    (hybridStep (noncePlatform nonce) (HybridSystem.start peerTable peerCount ⟨⟩)
        (peerRequest peer)).2.engine =
      if nonce.1 = .kOk then (Handshake.challenged peer nonce.2).engine
      else (Handshake.noNonce peer nonce.2).engine := by
  let engine := SpdmProtocolEngine.new peerTable peerCount
  let request : SpdmAuthRequest := { version := kSupportedVersion, clientId := peer.val }
  have hstate : ¬ engine.state ≠ .kUnauthenticated := not_not.mpr rfl
  have hversion : ¬ request.version ≠ kSupportedVersion := not_not.mpr rfl
  have hpeer : ¬ (engine.findPeerPublicKey request.clientId).isNone = true := by
    rw [Option.isNone_iff_eq_none]
    exact Option.isSome_iff_ne_none.mp peer.property
  show ((engine.processAuthRequest request).run (noncePlatform nonce) ⟨⟩).value.engine = _
  unfold SpdmProtocolEngine.processAuthRequest generateRandomNonce
  rw [if_neg hstate, if_neg hversion, if_neg hpeer, OracleProg.run_bind, OracleProg.run_call]
  dsimp only [noncePlatform, Oracle.ofFun]
  by_cases hok : nonce.1 = .kOk
  · rw [if_neg (not_not.mpr hok), if_pos hok]
    rfl
  · rw [if_pos hok, if_neg hok]
    rfl

/-- The response of the challenged peer authenticates it. -/
theorem step_peerResponse (peer : Peer peerTable peerCount) (nonce : CryptoStatus × Nonce)
    (pending : Nonce) :
    (hybridStep (noncePlatform nonce)
        { engine := (Handshake.challenged peer pending).engine, platform := ⟨⟩ }
        (peerResponse peer)).2.engine = (Handshake.authenticated peer pending).engine := by
  obtain ⟨key, hkey⟩ := Option.isSome_iff_exists.mp peer.property
  let engine := (Handshake.challenged peer pending).engine
  have hstate : ¬ engine.state ≠ .kChallengeSent := not_not.mpr rfl
  have hclient : ¬ clientIdDiff peer.val engine.pendingClientId ≠ 0 :=
    not_not.mpr (clientIdDiff_eq_zero_iff.mpr rfl)
  have hpeer : engine.findPeerPublicKey peer.val = some key :=
    ((Handshake.challenged peer pending).findPeerPublicKey_engine peer.val).trans hkey
  show ((engine.processAuthResponse _ _).run (noncePlatform nonce) ⟨⟩).value.engine = _
  unfold SpdmProtocolEngine.processAuthResponse
  rw [if_neg hstate, if_neg hclient]
  dsimp only
  rw [hpeer]
  rfl

/-- What the platform makes for a handshake. -/
def Handshake.nonce : Handshake peerTable peerCount → CryptoStatus × Nonce
  | noNonce _ left => (.kHwFault, left)
  | challenged _ nonce => (.kOk, nonce)
  | authenticated _ nonce => (.kOk, nonce)
  | _ => (.kOk, Bytes.zeros 32)

/-- Calls that lead there. -/
def Handshake.calls : Handshake peerTable peerCount → List HybridInput
  | idle => []
  | noNonce peer _ => [peerRequest peer]
  | challenged peer _ => [peerRequest peer]
  | authenticated peer _ => [peerRequest peer, peerResponse peer]
  | revoked none => [.revoke]
  | revoked (some peer) => [peerRequest peer, peerResponse peer, .revoke]

/-- They do. -/
theorem engine_of_calls (hs : Handshake peerTable peerCount) :
    ((hybridMachine (noncePlatform hs.nonce)).final
      (HybridSystem.start peerTable peerCount ⟨⟩) hs.calls).engine = hs.engine := by
  have hauthenticated : ∀ (peer : Peer peerTable peerCount) (nonce : Nonce),
      ((hybridMachine (noncePlatform (.kOk, nonce))).final
        (HybridSystem.start peerTable peerCount ⟨⟩)
          [peerRequest peer, peerResponse peer]).engine =
        (Handshake.authenticated peer nonce).engine := by
    intro peer nonce
    have hrequest := step_peerRequest peer (.kOk, nonce)
    rw [if_pos rfl] at hrequest
    refine Eq.trans ?_ (step_peerResponse peer (.kOk, nonce) nonce)
    rw [← hrequest]
    rfl
  rcases hs with _ | ⟨peer, left⟩ | ⟨peer, nonce⟩ | ⟨peer, nonce⟩ | (_ | peer)
  · rfl
  · exact step_peerRequest peer (.kHwFault, left)
  · exact step_peerRequest peer (.kOk, nonce)
  · exact hauthenticated peer nonce
  · rfl
  · exact congrArg SpdmProtocolEngine.revoke (hauthenticated peer (Bytes.zeros 32))

/-- **The engines of all runs.** Over all platforms, faulty and adversarial ones included, and all
orders of calls of an engine and its gate, the engines that occur are exactly those that hold a
handshake. So a revoked engine holds no nonce and no pending client; an unauthenticated one holds no
client, and a nonce only where the platform failed to make one; an authenticated one still holds the
nonce, and the client of its challenge is the one it authenticated. -/
theorem reachable_engines_iff (engine : SpdmProtocolEngine) :
    (∃ (σ : Type) (platform : Platform σ) (s₀ : σ) (is : List HybridInput),
      ((hybridMachine platform).final (HybridSystem.start peerTable peerCount s₀) is).engine =
        engine) ↔
      ∃ hs : Handshake peerTable peerCount, engine = hs.engine := by
  constructor
  · rintro ⟨σ, platform, s₀, is, rfl⟩
    exact handshake_run platform s₀ is
  · rintro ⟨hs, rfl⟩
    exact ⟨PUnit, noncePlatform hs.nonce, ⟨⟩, hs.calls, engine_of_calls hs⟩

end runs

end SotifPlausibility.Zzta
