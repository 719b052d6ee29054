import SotifPlausibility.Zzta.Platform

/-!
# The authentication engine

A challenge-response handshake with one peer: a request is answered by a nonce, and the peer signs
the digest of the nonce and its identifier.

* `SpdmProtocolEngine` — four states, the challenge in flight and the authenticated client.
* `processAuthRequest`, `processAuthResponse`, `revoke`, `reset` follow the source; the first two
  call the crypto platform.
* `challengeMsg` — the bytes that are signed; `challengeMsg_inj`: they determine the nonce and the
  client.
* `processAuthRequest_yields`, `processAuthResponse_yields` — all that the two calls can do, with
  any platform.

Source: `SpdmProtocolEngine.hpp`, `SpdmProtocolEngine.cpp`.
-/

namespace SotifPlausibility.Zzta

open SotifPlausibility.Found

/-! ### Frames -/

/-- Source: `SpdmProtocolEngine.hpp`, `SpdmAuthRequest`. -/
structure SpdmAuthRequest where
  clientId : ClientId
  version : Bytes 4
  deriving DecidableEq

/-- Source: `SpdmProtocolEngine.hpp`, `SpdmAuthResponse`. -/
structure SpdmAuthResponse where
  clientId : ClientId
  signature : CryptoSignature
  deriving DecidableEq

/-- What a successful handshake hands out.
Source: `SpdmProtocolEngine.hpp`, `SpdmSessionToken`. -/
structure SpdmSessionToken where
  clientId : ClientId
  sessionNonce : Nonce
  sessionKey : SessionKey
  deriving DecidableEq

/-- Source: `SpdmProtocolEngine.hpp`, `SpdmStatus`. -/
inductive SpdmStatus where
  | kOk
  | kInvalidState
  | kVersionMismatch
  | kClientIdMismatch
  | kSignatureInvalid
  | kCryptoError
  | kAlreadyAuthenticated
  | kRevoked
  | kInvalidParam
  deriving DecidableEq, Repr

/-- A peer and its pinned key.
Source: `SpdmProtocolEngine.hpp`, `KnownPeerEntry`. -/
structure KnownPeerEntry where
  clientId : ClientId
  publicKey : EccPublicKey
  deriving DecidableEq

/-- The most peers an engine knows. -/
def kMaxKnownPeers : ℕ := 8

/-- The only version supported. -/
def kSupportedVersion : Bytes 4 := #v[0x01, 0x10, 0x00, 0x00]

/-- The bytes both signatures are over: the nonce, then the client.
Source: `SpdmProtocolEngine.cpp`, `SpdmProtocolEngine::ComputeChallengeDigest`. -/
def challengeMsg (nonce : Nonce) (clientId : ClientId) : Bytes 40 :=
  ((Bytes.zeros 40).store 0 nonce).store 32 clientId

/-- What is signed begins with the nonce. -/
theorem load_challengeMsg_nonce (nonce : Nonce) (clientId : ClientId) :
    (challengeMsg nonce clientId).load 0 32 = nonce := by
  unfold challengeMsg
  rw [Bytes.load_store_of_disjoint _ _ _ (by decide), Bytes.load_store]

/-- Then comes the client. -/
theorem load_challengeMsg_clientId (nonce : Nonce) (clientId : ClientId) :
    (challengeMsg nonce clientId).load 32 8 = clientId := by
  unfold challengeMsg
  rw [Bytes.load_store]

/-- The bytes are the nonce and then the client. -/
theorem toList_challengeMsg (nonce : Nonce) (clientId : ClientId) :
    (challengeMsg nonce clientId).toList = nonce.toList ++ clientId.toList := by
  rw [Bytes.toList_eq_append _ 32 8 rfl, load_challengeMsg_nonce, load_challengeMsg_clientId]

/-- The bytes determine the nonce and the client. -/
theorem challengeMsg_inj {nonce nonce' : Nonce} {clientId clientId' : ClientId} :
    challengeMsg nonce clientId = challengeMsg nonce' clientId' ↔
      nonce = nonce' ∧ clientId = clientId' := by
  constructor
  · intro h
    constructor
    · rw [← load_challengeMsg_nonce nonce clientId, h, load_challengeMsg_nonce]
    · rw [← load_challengeMsg_clientId nonce clientId, h, load_challengeMsg_clientId]
  · rintro ⟨rfl, rfl⟩
    rfl

/-! ### Comparing clients -/

/-- The difference of two identifiers, gathered over all bytes so that the time taken does not
depend on where they differ.
Source: `SpdmProtocolEngine.cpp`, `SpdmProtocolEngine::ProcessAuthResponse`. -/
def clientIdDiff (a b : ClientId) : UInt8 :=
  (Vector.zipWith (· ^^^ ·) a b).toList.foldl (· ||| ·) 0

/-- An accumulated disjunction is zero only if every byte is. -/
theorem foldl_or_eq_zero_iff (l : List UInt8) (d : UInt8) :
    l.foldl (· ||| ·) d = 0 ↔ d = 0 ∧ ∀ x ∈ l, x = 0 := by
  induction l generalizing d with
  | nil => simp
  | cons x l ih =>
      rw [List.foldl_cons, ih, List.forall_mem_cons, ← and_assoc, UInt8.or_eq_zero_iff]

/-- The difference is zero exactly for equal identifiers. -/
theorem clientIdDiff_eq_zero_iff {a b : ClientId} : clientIdDiff a b = 0 ↔ a = b := by
  unfold clientIdDiff
  rw [foldl_or_eq_zero_iff]
  constructor
  · rintro ⟨-, hall⟩
    refine Vector.ext fun i hi => UInt8.xor_eq_zero_iff.mp (hall _ ?_)
    rw [Vector.mem_toList_iff, ← Vector.getElem_zipWith (f := (· ^^^ ·)) hi]
    exact Vector.getElem_mem hi
  · rintro rfl
    refine ⟨rfl, ?_⟩
    intro x hx
    obtain ⟨i, hi, rfl⟩ := Vector.getElem_of_mem (Vector.mem_toList_iff.mp hx)
    rw [Vector.getElem_zipWith, UInt8.xor_self]

/-! ### The engine -/

/-- The states of an engine.
Source: `SpdmProtocolEngine.hpp`, `SpdmProtocolEngine::State`. -/
inductive SpdmState where
  | kUnauthenticated
  | kChallengeSent
  | kAuthenticated
  | kRevoked
  deriving DecidableEq, Repr

/-- The engine; its crypto platform is the oracle its programs run under. The peer table is the
array its pointer points to, if any.
Source: `SpdmProtocolEngine.hpp`, `SpdmProtocolEngine`. -/
structure SpdmProtocolEngine where
  peerTable : Option (List KnownPeerEntry)
  peerCount : ℕ
  state : SpdmState := .kUnauthenticated
  pendingNonce : Nonce := Bytes.zeros 32
  pendingClientId : ClientId := Bytes.zeros 8
  authenticatedClientId : ClientId := Bytes.zeros 8
  deriving DecidableEq

/-- The results of a call that leaves an engine. -/
structure SpdmOutcome where
  status : SpdmStatus
  engine : SpdmProtocolEngine

namespace SpdmProtocolEngine

/-- Source: `SpdmProtocolEngine.cpp`, the constructor. -/
def new (peerTable : Option (List KnownPeerEntry)) (peerCount : ℕ) : SpdmProtocolEngine where
  peerTable
  peerCount := if peerCount ≤ kMaxKnownPeers then peerCount else kMaxKnownPeers

variable (engine : SpdmProtocolEngine)

/-- Source: `SpdmProtocolEngine.cpp`, `SpdmProtocolEngine::FindPeerPublicKey`. -/
def findPeerPublicKey (clientId : ClientId) : Option EccPublicKey :=
  match engine.peerTable with
  | none => none
  | some table =>
      ((table.take engine.peerCount).find? fun entry =>
        clientIdDiff clientId entry.clientId = 0).map (·.publicKey)

/-- Source: `SpdmProtocolEngine.cpp`, `SpdmProtocolEngine::SanitiseSecretMaterial`. -/
def sanitiseSecretMaterial : SpdmProtocolEngine :=
  { engine with pendingNonce := Bytes.zeros 32, pendingClientId := Bytes.zeros 8 }

/-- Source: `SpdmProtocolEngine.cpp`, `SpdmProtocolEngine::Revoke`. -/
def revoke : SpdmProtocolEngine :=
  { engine.sanitiseSecretMaterial with state := .kRevoked }

/-- Source: `SpdmProtocolEngine.cpp`, `SpdmProtocolEngine::Reset`. -/
def reset : SpdmProtocolEngine :=
  { engine.sanitiseSecretMaterial with
    authenticatedClientId := Bytes.zeros 8, state := .kUnauthenticated }

/-- The nonce lands in the engine before the status is looked at.
Source: `SpdmProtocolEngine.cpp`, `SpdmProtocolEngine::ProcessAuthRequest`. -/
def processAuthRequest (request : SpdmAuthRequest) : PlatformProg SpdmOutcome :=
  if engine.state ≠ .kUnauthenticated then
    pure { status :=
             if engine.state = .kAuthenticated then .kAlreadyAuthenticated else .kInvalidState
           engine }
  else if request.version ≠ kSupportedVersion then
    pure { status := .kVersionMismatch, engine }
  else if (engine.findPeerPublicKey request.clientId).isNone then
    pure { status := .kSignatureInvalid, engine }
  else do
    let nonce ← generateRandomNonce engine.pendingNonce
    if nonce.1 ≠ .kOk then
      pure { status := .kCryptoError, engine := { engine with pendingNonce := nonce.2 } }
    else
      pure { status := .kOk
             engine := { engine with pendingNonce := nonce.2, pendingClientId := request.clientId
                                     state := .kChallengeSent } }

end SpdmProtocolEngine

/-- The results of a response, with the token the caller handed in. -/
structure SpdmResponseOutcome extends SpdmOutcome where
  sessionTokenOut : SpdmSessionToken

/-- Source: `SpdmProtocolEngine.cpp`, `SpdmProtocolEngine::ProcessAuthResponse`. -/
def SpdmProtocolEngine.processAuthResponse (engine : SpdmProtocolEngine)
    (response : SpdmAuthResponse) (sessionTokenOut : SpdmSessionToken) :
    PlatformProg SpdmResponseOutcome :=
  if engine.state ≠ .kChallengeSent then
    pure { status := .kInvalidState, engine, sessionTokenOut }
  else if clientIdDiff response.clientId engine.pendingClientId ≠ 0 then
    pure { status := .kClientIdMismatch, engine := engine.revoke, sessionTokenOut }
  else
    match engine.findPeerPublicKey response.clientId with
    | none => pure { status := .kSignatureInvalid, engine := engine.revoke, sessionTokenOut }
    | some peerPublicKey => do
        let digest ← computeSha256 (challengeMsg engine.pendingNonce response.clientId).toList
        if digest.1 ≠ .kOk then
          pure { status := .kCryptoError, engine := engine.revoke, sessionTokenOut }
        else do
          let verified ← verifyEccSignature digest.2 response.signature peerPublicKey
          if verified ≠ .kOk then
            pure { status := if verified = .kVerifyFailed then .kSignatureInvalid else .kCryptoError
                   engine := engine.revoke, sessionTokenOut }
          else do
            let derived ← deriveSessionKey engine.pendingNonce response.clientId
            if derived.1 ≠ .kOk then
              pure { status := .kCryptoError, engine := engine.revoke, sessionTokenOut }
            else
              pure { status := .kOk
                     engine := { engine with authenticatedClientId := response.clientId
                                             state := .kAuthenticated }
                     sessionTokenOut := { clientId := response.clientId
                                          sessionNonce := engine.pendingNonce
                                          sessionKey := derived.2 } }

/-! ### What the engine can do -/

section yields

variable {engine : SpdmProtocolEngine} {calls : List PlatformCall}

/-- Revoking leaves the engine revoked. -/
@[simp] theorem SpdmProtocolEngine.state_revoke : engine.revoke.state = .kRevoked := rfl

/-- Resetting leaves the engine unauthenticated. -/
@[simp] theorem SpdmProtocolEngine.state_reset : engine.reset.state = .kUnauthenticated := rfl

/-- **What a request can do.** It succeeds only in an idle engine, which then has a challenge in
flight. Otherwise the state stays, and in any other state the whole engine. -/
theorem processAuthRequest_yields {request : SpdmAuthRequest} {out : SpdmOutcome}
    (h : (engine.processAuthRequest request).Yields calls out) :
    (out.status = .kOk ∧ engine.state = .kUnauthenticated ∧
        out.engine.state = .kChallengeSent) ∨
      (out.status ≠ .kOk ∧ out.engine.state = engine.state ∧
        (engine.state ≠ .kUnauthenticated → out.engine = engine)) := by
  unfold SpdmProtocolEngine.processAuthRequest generateRandomNonce at h
  by_cases hstate : engine.state = .kUnauthenticated
  swap
  · rw [if_pos hstate] at h
    obtain ⟨rfl, rfl⟩ := h
    refine Or.inr ⟨?_, rfl, fun _ => rfl⟩
    dsimp only
    split_ifs <;> simp
  rw [if_neg (not_not.mpr hstate)] at h
  split_ifs at h with hversion hpeer
  · obtain ⟨rfl, rfl⟩ := h
    exact Or.inr ⟨by simp, rfl, fun _ => rfl⟩
  · obtain ⟨rfl, rfl⟩ := h
    exact Or.inr ⟨by simp, rfl, fun _ => rfl⟩
  · obtain ⟨nonce, calls₁, rest₁, rfl, hcall, h₁⟩ := OracleProg.yields_bind.mp h
    split_ifs at h₁ with hnonce
    · obtain ⟨rfl, rfl⟩ := h₁
      exact Or.inr ⟨by simp, rfl, fun hne => absurd hstate hne⟩
    · obtain ⟨rfl, rfl⟩ := h₁
      exact Or.inl ⟨rfl, hstate, rfl⟩

/-- **What a response can do.** It is refused without a challenge in flight, it revokes the session,
or the challenge's digest was signed by the client it was sent to, under the key this client is
known by; the client is then authenticated. -/
theorem processAuthResponse_yields {response : SpdmAuthResponse} {token : SpdmSessionToken}
    {out : SpdmResponseOutcome}
    (h : (engine.processAuthResponse response token).Yields calls out) :
    (out.status ≠ .kOk ∧ engine.state ≠ .kChallengeSent ∧ out.engine = engine) ∨
      (out.status ≠ .kOk ∧ out.engine = engine.revoke) ∨
      (out.status = .kOk ∧ engine.state = .kChallengeSent ∧
        response.clientId = engine.pendingClientId ∧
        out.engine = { engine with authenticatedClientId := response.clientId
                                   state := .kAuthenticated } ∧
        ∃ (digest : Sha256Digest) (key : EccPublicKey) (rest : List PlatformCall),
          engine.findPeerPublicKey response.clientId = some key ∧
          calls = ⟨.computeSha256 (challengeMsg engine.pendingNonce response.clientId).toList,
              (.kOk, digest)⟩ ::
            ⟨.verifyEccSignature digest response.signature key, .kOk⟩ :: rest) := by
  unfold SpdmProtocolEngine.processAuthResponse computeSha256 verifyEccSignature
    deriveSessionKey at h
  by_cases hstate : engine.state = .kChallengeSent
  swap
  · rw [if_pos hstate] at h
    obtain ⟨rfl, rfl⟩ := h
    exact Or.inl ⟨by simp, hstate, rfl⟩
  rw [if_neg (not_not.mpr hstate)] at h
  split_ifs at h with hclient
  · obtain ⟨rfl, rfl⟩ := h
    exact Or.inr (Or.inl ⟨by simp, rfl⟩)
  cases hpeer : engine.findPeerPublicKey response.clientId with
  | none =>
      rw [hpeer] at h
      obtain ⟨rfl, rfl⟩ := h
      exact Or.inr (Or.inl ⟨by simp, rfl⟩)
  | some key =>
      rw [hpeer] at h
      obtain ⟨⟨hashed, digest⟩, calls₁, rest₁, rfl, hhash, h₁⟩ := OracleProg.yields_bind.mp h
      obtain rfl := OracleProg.yields_call.mp hhash
      by_cases hdigest : hashed = .kOk
      swap
      · rw [if_pos hdigest] at h₁
        obtain ⟨rfl, rfl⟩ := h₁
        exact Or.inr (Or.inl ⟨by simp, rfl⟩)
      rw [if_neg (not_not.mpr hdigest)] at h₁
      obtain ⟨verified, calls₂, rest₂, rfl, hverify, h₂⟩ := OracleProg.yields_bind.mp h₁
      obtain rfl := OracleProg.yields_call.mp hverify
      by_cases hverified : verified = .kOk
      swap
      · rw [if_pos hverified] at h₂
        obtain ⟨rfl, rfl⟩ := h₂
        refine Or.inr (Or.inl ⟨?_, rfl⟩)
        dsimp only
        split_ifs <;> simp
      rw [if_neg (not_not.mpr hverified)] at h₂
      obtain ⟨derived, calls₃, rest₃, rfl, hderive, h₃⟩ := OracleProg.yields_bind.mp h₂
      split_ifs at h₃ with hderived
      · obtain ⟨rfl, rfl⟩ := h₃
        exact Or.inr (Or.inl ⟨by simp, rfl⟩)
      · obtain ⟨rfl, rfl⟩ := h₃
        refine Or.inr (Or.inr ⟨rfl, hstate, clientIdDiff_eq_zero_iff.mp (not_not.mp hclient), rfl,
          digest, key, calls₃ ++ [], rfl, ?_⟩)
        subst hdigest hverified
        rfl

end yields

end SotifPlausibility.Zzta
