import SotifPlausibility.Found.Stages
import SotifPlausibility.Zzta.Platform

/-!
# The certificate chain of a V2X message

A received message carries the certificate of its signer and the certificate that signs that one.
The verifier checks the chain from a root key it trusts, one call of the crypto platform after the
other, and stops at the first that fails.

* `V2xCertificate`, `V2xSignedBsm`, `V2xTrustStatus` — what is received, and the answers.
* `V2xTrustVerifier.verifyChain` follows the source; `V2xCertificate.signedMsg` are the bytes an
  issuer signs.
* `chainStages` — the specification: the calls and conditions of a chain in order, each with the
  status of its failure, over the replies of the platform (`ChainReplies`).
* `verifyChain_yields` — with any platform, a verification goes through these stages and stops at
  the first that fails.

Source: `V2xCertificate.hpp`, `V2xTrustVerifier.cpp`.
-/

namespace SotifPlausibility.V2x

open SotifPlausibility.Found SotifPlausibility.Zzta

/-! ### Certificates and messages -/

/-- A pseudonym certificate or that of an intermediate authority.
Source: `V2xCertificate.hpp`, `V2xCertificate`. -/
structure V2xCertificate where
  subjectPublicKey : EccPublicKey
  validFromEpochS : UInt32
  /-- Exclusive. -/
  validUntilEpochS : UInt32
  issuerSignature : CryptoSignature
  deriving DecidableEq

/-- The largest payload of a message. -/
def kMaxBsmPayloadBytes : ℕ := 192

/-- A signed message and the two certificates its sender attached.
Source: `V2xCertificate.hpp`, `V2xSignedBsm`. -/
structure V2xSignedBsm where
  payload : Bytes 192
  payloadLen : UInt16
  /-- Signs the message. -/
  pseudonymCert : V2xCertificate
  /-- Signs the pseudonym certificate. -/
  intermediateCert : V2xCertificate
  bsmSignature : CryptoSignature
  deriving DecidableEq

/-- The answers of the verifier.
Source: `V2xCertificate.hpp`, `V2xTrustStatus`. -/
inductive V2xTrustStatus where
  | kTrusted
  | kInvalidInput
  | kRootSignatureInvalid
  | kIntermediateExpired
  | kLeafSignatureInvalid
  | kLeafExpired
  | kBsmSignatureInvalid
  | kCryptoError
  deriving DecidableEq, Repr

/-- The number of a status. -/
def V2xTrustStatus.toUInt8 : V2xTrustStatus → UInt8
  | .kTrusted => 0
  | .kInvalidInput => 1
  | .kRootSignatureInvalid => 2
  | .kIntermediateExpired => 3
  | .kLeafSignatureInvalid => 4
  | .kLeafExpired => 5
  | .kBsmSignatureInvalid => 6
  | .kCryptoError => 7

namespace V2xCertificate

variable (cert : V2xCertificate)

/-- The bytes the issuer signs: the key and the window, least significant byte first.
Source: `V2xTrustVerifier.cpp`, `V2xTrustVerifier::VerifyCertSignature`. -/
def signedMsg : Bytes 41 :=
  (((Bytes.zeros 41).store 0 cert.subjectPublicKey).store 33
    (Bytes.packU32 cert.validFromEpochS)).store 37 (Bytes.packU32 cert.validUntilEpochS)

/-- The signed bytes begin with the key. -/
theorem load_signedMsg_key : cert.signedMsg.load 0 33 = cert.subjectPublicKey := by
  unfold signedMsg
  rw [Bytes.load_store_of_disjoint _ _ _ (by decide),
    Bytes.load_store_of_disjoint _ _ _ (by decide), Bytes.load_store]

/-- Then comes the start of the window. -/
theorem load_signedMsg_from :
    cert.signedMsg.load 33 4 = Bytes.packU32 cert.validFromEpochS := by
  unfold signedMsg
  rw [Bytes.load_store_of_disjoint _ _ _ (by decide), Bytes.load_store]

/-- Then comes its end. -/
theorem load_signedMsg_until :
    cert.signedMsg.load 37 4 = Bytes.packU32 cert.validUntilEpochS := by
  unfold signedMsg
  rw [Bytes.load_store]

/-- The certificate is valid at a time.
Source: `V2xTrustVerifier.cpp`, `V2xTrustVerifier::WithinValidity`. -/
def withinValidity (nowEpochS : UInt32) : Bool :=
  nowEpochS ≥ cert.validFromEpochS ∧ nowEpochS < cert.validUntilEpochS

end V2xCertificate

/-! ### The verifier -/

/-- The verifier; its crypto platform is the oracle its programs run under.
Source: `V2xTrustVerifier.hpp`, `V2xTrustVerifier`. -/
structure V2xTrustVerifier where
  trustedRootKey : EccPublicKey
  deriving DecidableEq

namespace V2xTrustVerifier

/-- Source: `V2xTrustVerifier.cpp`, `V2xTrustVerifier::VerifyCertSignature`. -/
def verifyCertSignature (cert : V2xCertificate) (issuerPublicKey : EccPublicKey) :
    PlatformProg Bool := do
  let digest ← computeSha256 cert.signedMsg.toList
  if digest.1 ≠ .kOk then
    pure false
  else do
    let status ← verifyEccSignature digest.2 cert.issuerSignature issuerPublicKey
    pure (status = .kOk)

/-- Source: `V2xTrustVerifier.cpp`, `V2xTrustVerifier::VerifyChain`. -/
def verifyChain (verifier : V2xTrustVerifier) (bsm : V2xSignedBsm) (nowEpochS : UInt32) :
    PlatformProg V2xTrustStatus :=
  if bsm.payloadLen = 0 ∨ bsm.payloadLen.toNat > kMaxBsmPayloadBytes then
    pure .kInvalidInput
  else do
    let rootOk ← verifyCertSignature bsm.intermediateCert verifier.trustedRootKey
    if rootOk = false then pure .kRootSignatureInvalid
    else if bsm.intermediateCert.withinValidity nowEpochS = false then pure .kIntermediateExpired
    else do
      let leafOk ← verifyCertSignature bsm.pseudonymCert bsm.intermediateCert.subjectPublicKey
      if leafOk = false then pure .kLeafSignatureInvalid
      else if bsm.pseudonymCert.withinValidity nowEpochS = false then pure .kLeafExpired
      else do
        let payloadDigest ← computeSha256 (bsm.payload.toList.take bsm.payloadLen.toNat)
        if payloadDigest.1 ≠ .kOk then pure .kCryptoError
        else do
          let status ← verifyEccSignature payloadDigest.2 bsm.bsmSignature
            bsm.pseudonymCert.subjectPublicKey
          if status ≠ .kOk then pure .kBsmSignatureInvalid
          else pure .kTrusted

end V2xTrustVerifier

/-! ### What the verifier asks and answers -/

/-- The replies of the platform to the calls of a chain and to the hash of the pseudonym key. -/
structure ChainReplies where
  intermediateHash : CryptoStatus × Sha256Digest
  intermediateSignature : CryptoStatus
  pseudonymHash : CryptoStatus × Sha256Digest
  pseudonymSignature : CryptoStatus
  payloadHash : CryptoStatus × Sha256Digest
  bsmSignature : CryptoStatus
  keyHash : CryptoStatus × Sha256Digest

/-- The stages of one certificate: the hash of its bytes, the signature over the digest under the
issuer's key, the window. -/
def certStages (cert : V2xCertificate) (issuerPublicKey : EccPublicKey)
    (hash : CryptoStatus × Sha256Digest) (signature : CryptoStatus) (nowEpochS : UInt32)
    (invalid expired : V2xTrustStatus) : List (Stage PlatformCall V2xTrustStatus) :=
  [⟨some ⟨.computeSha256 cert.signedMsg.toList, hash⟩, hash.1 = .kOk, invalid⟩,
    ⟨some ⟨.verifyEccSignature hash.2 cert.issuerSignature issuerPublicKey, signature⟩,
      signature = .kOk, invalid⟩,
    ⟨none, cert.withinValidity nowEpochS = true, expired⟩]

/-- The stages of the message: the hash of its payload, the signature over the digest. -/
def messageStages (bsm : V2xSignedBsm) (hash : CryptoStatus × Sha256Digest)
    (signature : CryptoStatus) : List (Stage PlatformCall V2xTrustStatus) :=
  [⟨some ⟨.computeSha256 (bsm.payload.toList.take bsm.payloadLen.toNat), hash⟩, hash.1 = .kOk,
      .kCryptoError⟩,
    ⟨some ⟨.verifyEccSignature hash.2 bsm.bsmSignature bsm.pseudonymCert.subjectPublicKey,
      signature⟩, signature = .kOk, .kBsmSignatureInvalid⟩]

/-- The stages of a chain: the intermediate certificate under the root key, the pseudonym
certificate under the intermediate's key, the message under the pseudonym's key. -/
def chainStages (root : EccPublicKey) (bsm : V2xSignedBsm) (nowEpochS : UInt32)
    (r : ChainReplies) : List (Stage PlatformCall V2xTrustStatus) :=
  certStages bsm.intermediateCert root r.intermediateHash r.intermediateSignature nowEpochS
      .kRootSignatureInvalid .kIntermediateExpired ++
    (certStages bsm.pseudonymCert bsm.intermediateCert.subjectPublicKey r.pseudonymHash
        r.pseudonymSignature nowEpochS .kLeafSignatureInvalid .kLeafExpired ++
      messageStages bsm r.payloadHash r.bsmSignature)

/-- The answers a chain can fail with. -/
theorem chainStages_reason {root : EccPublicKey} {bsm : V2xSignedBsm} {nowEpochS : UInt32}
    {r : ChainReplies} : ∀ st ∈ chainStages root bsm nowEpochS r,
      st.reason ≠ .kTrusted ∧ st.reason ≠ .kInvalidInput := by
  intro st hst
  simp only [chainStages, certStages, messageStages, List.cons_append, List.nil_append,
    List.mem_cons, List.not_mem_nil, or_false] at hst
  rcases hst with rfl | rfl | rfl | rfl | rfl | rfl | rfl | rfl <;> exact ⟨by simp, by simp⟩

section yields

variable {calls : List PlatformCall} {status : V2xTrustStatus}

/-- The check of a certificate hashes its bytes and, if that works, checks the signature. -/
theorem verifyCertSignature_yields {cert : V2xCertificate} {key : EccPublicKey} {ok : Bool}
    (h : (V2xTrustVerifier.verifyCertSignature cert key).Yields calls ok) :
    ∃ hash : CryptoStatus × Sha256Digest,
      (hash.1 ≠ .kOk ∧ ok = false ∧
        calls = [⟨.computeSha256 cert.signedMsg.toList, hash⟩]) ∨
      (hash.1 = .kOk ∧ ∃ signature : CryptoStatus, ok = decide (signature = .kOk) ∧
        calls = [⟨.computeSha256 cert.signedMsg.toList, hash⟩,
          ⟨.verifyEccSignature hash.2 cert.issuerSignature key, signature⟩]) := by
  unfold V2xTrustVerifier.verifyCertSignature computeSha256 verifyEccSignature at h
  obtain ⟨hash, calls₁, calls₂, rfl, hcall, h₁⟩ := OracleProg.yields_bind.mp h
  rw [OracleProg.yields_call] at hcall
  refine ⟨hash, ?_⟩
  split_ifs at h₁ with hhash
  · obtain ⟨rfl, rfl⟩ := h₁
    exact Or.inl ⟨hhash, rfl, by rw [hcall]; rfl⟩
  · obtain ⟨signature, calls₃, calls₄, rfl, hcall', rfl, rfl⟩ := OracleProg.yields_bind.mp h₁
    rw [OracleProg.yields_call] at hcall'
    exact Or.inr ⟨not_not.mp hhash, signature, rfl, by rw [hcall, hcall']; rfl⟩

/-- A certificate's stages stop the verification, or it goes on with the rest. -/
theorem certStages_yields {cert : V2xCertificate} {key : EccPublicKey} {nowEpochS : UInt32}
    {invalid expired : V2xTrustStatus} {rest : PlatformProg V2xTrustStatus}
    (h : (do
      let ok ← V2xTrustVerifier.verifyCertSignature cert key
      if ok = false then pure invalid
      else if cert.withinValidity nowEpochS = false then pure expired
      else rest).Yields calls status) :
    ∃ hash signature, let stages := certStages cert key hash signature nowEpochS invalid expired
      Stops stages calls status ∨
        ∃ calls₁ calls₂, calls = calls₁ ++ calls₂ ∧ Passes stages calls₁ ∧
          rest.Yields calls₂ status := by
  obtain ⟨ok, calls₁, calls₂, rfl, hcert, h₁⟩ := OracleProg.yields_bind.mp h
  obtain ⟨hash, ⟨hhash, rfl, rfl⟩ | ⟨hhash, signature, rfl, rfl⟩⟩ :=
    verifyCertSignature_yields hcert
  · obtain ⟨rfl, rfl⟩ := h₁
    exact ⟨hash, .kOk, Or.inl (stops_cons_of_not hhash)⟩
  refine ⟨hash, signature, ?_⟩
  by_cases hsignature : signature = .kOk
  swap
  · rw [if_pos (decide_eq_false hsignature)] at h₁
    obtain ⟨rfl, rfl⟩ := h₁
    exact Or.inl (stops_cons_of_holds hhash (stops_cons_of_not hsignature))
  rw [if_neg (by simp [hsignature])] at h₁
  by_cases hwindow : cert.withinValidity nowEpochS = true
  swap
  · rw [if_pos (Bool.eq_false_iff.mpr hwindow)] at h₁
    obtain ⟨rfl, rfl⟩ := h₁
    exact Or.inl (stops_cons_of_holds hhash (stops_cons_of_holds hsignature
      (stops_cons_of_not hwindow)))
  rw [if_neg (by simp [hwindow])] at h₁
  exact Or.inr ⟨_, calls₂, rfl, passes_cons hhash (passes_cons hsignature
    (passes_cons hwindow passes_nil)), h₁⟩

/-- **What a verification asks and answers.** With any platform, it goes through the stages of the
chain and stops at the first that fails. -/
theorem verifyChain_yields {verifier : V2xTrustVerifier} {bsm : V2xSignedBsm} {nowEpochS : UInt32}
    (hlen : bsm.payloadLen ≠ 0) (hmax : bsm.payloadLen.toNat ≤ kMaxBsmPayloadBytes)
    (h : (verifier.verifyChain bsm nowEpochS).Yields calls status) :
    ∃ r : ChainReplies, Follows .kTrusted
      (chainStages verifier.trustedRootKey bsm nowEpochS r) calls status := by
  unfold V2xTrustVerifier.verifyChain at h
  rw [if_neg (by simp [hlen, hmax])] at h
  obtain ⟨hash₁, signature₁, hstop₁ | ⟨calls₁, rest₁, rfl, hpass₁, h₁⟩⟩ := certStages_yields h
  · exact ⟨⟨hash₁, signature₁, hash₁, .kOk, hash₁, .kOk, hash₁⟩, hstop₁.append_follows _⟩
  obtain ⟨hash₂, signature₂, hstop₂ | ⟨calls₂, rest₂, rfl, hpass₂, h₂⟩⟩ := certStages_yields h₁
  · exact ⟨⟨hash₁, signature₁, hash₂, signature₂, hash₁, .kOk, hash₁⟩,
      hpass₁.append_follows (hstop₂.append_follows _)⟩
  -- the message
  unfold computeSha256 verifyEccSignature at h₂
  obtain ⟨hash₃, calls₃, rest₃, rfl, hcall, h₃⟩ := OracleProg.yields_bind.mp h₂
  obtain rfl := OracleProg.yields_call.mp hcall
  by_cases hhash₃ : hash₃.1 = .kOk
  swap
  · rw [if_pos hhash₃] at h₃
    obtain ⟨rfl, rfl⟩ := h₃
    exact ⟨⟨hash₁, signature₁, hash₂, signature₂, hash₃, .kOk, hash₁⟩,
      hpass₁.append_follows (hpass₂.append_follows
        (Or.inr (stops_cons_of_not hhash₃)))⟩
  rw [if_neg (by simp [hhash₃])] at h₃
  obtain ⟨signature₃, calls₄, rest₄, rfl, hcall', h₄⟩ := OracleProg.yields_bind.mp h₃
  obtain rfl := OracleProg.yields_call.mp hcall'
  refine ⟨⟨hash₁, signature₁, hash₂, signature₂, hash₃, signature₃, hash₁⟩,
    hpass₁.append_follows (hpass₂.append_follows ?_)⟩
  by_cases hsignature₃ : signature₃ = .kOk
  · rw [if_neg (by simp [hsignature₃])] at h₄
    obtain ⟨rfl, rfl⟩ := h₄
    exact Or.inl ⟨passes_cons hhash₃ (passes_cons hsignature₃ passes_nil), rfl⟩
  · rw [if_pos hsignature₃] at h₄
    obtain ⟨rfl, rfl⟩ := h₄
    exact Or.inr (stops_cons_of_holds hhash₃ (stops_cons_of_not hsignature₃))

end yields

end SotifPlausibility.V2x
