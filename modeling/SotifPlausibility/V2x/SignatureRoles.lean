import SotifPlausibility.Found.TwosComplement
import SotifPlausibility.V2x.Acceptance

/-!
# The two roles of a signature

A key signs certificates in one role and messages in the other. Neither string that is hashed says
which role it is for.

* `V2xSignedBsm.signedMsg` — the string of a message; that of a certificate is
  `V2xCertificate.signedMsg`.
* `signedMsg_toList_eq_iff` — a certificate is its key and its window, as far as the string goes.
* `signedMsg_eq_iff` — a message has the string of a certificate only if its payload is 41 bytes
  long.
* `verifyCertSignature_eq_true_iff`, `signature_of_kTrusted` — what the two checks take.
* `signature_roles` — a signature of a message passes for a certificate only with such a payload,
  with a collision of the hash, or with a check that accepts it for two digests.
-/

namespace SotifPlausibility.V2x

open SotifPlausibility.Found SotifPlausibility.Zzta

/-- The bytes the signer of a message signs: the payload in use.
Source: `V2xTrustVerifier.cpp`, `V2xTrustVerifier::VerifyChain`. -/
def V2xSignedBsm.signedMsg (bsm : V2xSignedBsm) : List UInt8 :=
  bsm.payload.toList.take bsm.payloadLen.toNat

/-! ### The signed strings -/

section strings

/-- **A certificate is signed with its key and its window**: their packing is injective. -/
theorem signedMsg_toList_eq_iff (cert cert' : V2xCertificate) :
    cert.signedMsg.toList = cert'.signedMsg.toList ↔
      cert.subjectPublicKey = cert'.subjectPublicKey ∧
        cert.validFromEpochS = cert'.validFromEpochS ∧
        cert.validUntilEpochS = cert'.validUntilEpochS := by
  rw [Vector.toList_inj]
  constructor
  · intro h
    have hkey := cert.load_signedMsg_key
    have hfrom := cert.load_signedMsg_from
    have huntil := cert.load_signedMsg_until
    rw [h] at hkey hfrom huntil
    refine ⟨hkey.symm.trans cert'.load_signedMsg_key, ?_, ?_⟩
    · have hpack := congrArg Bytes.unpackU32 (hfrom.symm.trans cert'.load_signedMsg_from)
      simpa using hpack
    · have hpack := congrArg Bytes.unpackU32 (huntil.symm.trans cert'.load_signedMsg_until)
      simpa using hpack
  · rintro ⟨hkey, hfrom, huntil⟩
    unfold V2xCertificate.signedMsg
    rw [hkey, hfrom, huntil]

/-- **When a message has the string of a certificate**: the lengths leave one payload length, and
the payload has to begin with the string. -/
theorem signedMsg_eq_iff (bsm : V2xSignedBsm) (cert : V2xCertificate) :
    bsm.signedMsg = cert.signedMsg.toList ↔
      bsm.payloadLen = 41 ∧ bsm.payload.load 0 41 = cert.signedMsg := by
  have htake : bsm.payload.toList.take 41 = (bsm.payload.load 0 41).toList := by
    rw [Bytes.toList_load, List.drop_zero]
  constructor
  · intro h
    have hlen := congrArg List.length h
    simp only [V2xSignedBsm.signedMsg, List.length_take, Vector.length_toList] at hlen
    have hpayloadLen : bsm.payloadLen.toNat = 41 := by omega
    refine ⟨UInt16.toNat_inj.mp hpayloadLen, ?_⟩
    rw [V2xSignedBsm.signedMsg, hpayloadLen, htake] at h
    exact Vector.toList_inj.mp h
  · rintro ⟨hlen, hload⟩
    have hpayloadLen : bsm.payloadLen.toNat = 41 := by
      rw [hlen]
      rfl
    rw [V2xSignedBsm.signedMsg, hpayloadLen, htake, hload]

/-- No message that the adapter passes on has the string of a certificate. -/
theorem signedMsg_bsmOf_ne (data : Bytes 1472) (cert : V2xCertificate) :
    (bsmOf data).signedMsg ≠ cert.signedMsg.toList := by
  intro h
  obtain ⟨hlen, -⟩ := (signedMsg_eq_iff _ _).mp h
  simp [bsmOf] at hlen

end strings

/-! ### The two checks -/

section checks

variable {sha256 : List UInt8 → CryptoStatus × Sha256Digest}
  {verifyEcc : Sha256Digest → CryptoSignature → EccPublicKey → CryptoStatus} {clock : UInt32}
  {σ : Type} {platform : Platform σ}

/-- **What the check of a certificate takes**: the hash of its string succeeds, and its signature is
valid for the digest. -/
theorem verifyCertSignature_eq_true_iff
    (hanswer : ∀ s q, Answered sha256 verifyEcc clock q (platform.answer s q).1)
    (cert : V2xCertificate) (key : EccPublicKey) (s : σ) :
    ((V2xTrustVerifier.verifyCertSignature cert key).run platform s).value = true ↔
      (sha256 cert.signedMsg.toList).1 = .kOk ∧
        verifyEcc (sha256 cert.signedMsg.toList).2 cert.issuerSignature key = .kOk := by
  have hcalls := OracleProg.run_calls_of_answer hanswer
    (V2xTrustVerifier.verifyCertSignature cert key) s
  obtain ⟨hash, ⟨hhash, hvalue, hlog⟩ | ⟨hhash, signature, hvalue, hlog⟩⟩ :=
    verifyCertSignature_yields (OracleProg.yields_run _ platform s)
  · have hreply : hash = sha256 cert.signedMsg.toList := by
      rw [hlog] at hcalls
      exact hcalls _ (List.mem_singleton_self _)
    rw [hvalue, ← hreply]
    simp [hhash]
  · rw [hlog] at hcalls
    have hreply : hash = sha256 cert.signedMsg.toList :=
      hcalls ⟨.computeSha256 cert.signedMsg.toList, hash⟩ (by simp)
    have hsignature : signature = verifyEcc hash.2 cert.issuerSignature key :=
      hcalls ⟨.verifyEccSignature hash.2 cert.issuerSignature key, signature⟩ (by simp)
    rw [hvalue, ← hreply, ← hsignature]
    simp [hhash]

/-- A message that is trusted was hashed, and its signature is valid for the digest. -/
theorem signature_of_kTrusted
    (hanswer : ∀ s q, Answered sha256 verifyEcc clock q (platform.answer s q).1)
    {verifier : V2xTrustVerifier} {bsm : V2xSignedBsm} {nowEpochS : UInt32} {s : σ}
    (h : ((verifier.verifyChain bsm nowEpochS).run platform s).value = .kTrusted) :
    (sha256 bsm.signedMsg).1 = .kOk ∧ verifyEcc (sha256 bsm.signedMsg).2 bsm.bsmSignature
      bsm.pseudonymCert.subjectPublicKey = .kOk := by
  have hcalls := OracleProg.run_calls_of_answer hanswer (verifier.verifyChain bsm nowEpochS) s
  have hyields := OracleProg.yields_run (verifier.verifyChain bsm nowEpochS) platform s
  rw [h] at hyields
  by_cases hadmitted : bsm.payloadLen = 0 ∨ bsm.payloadLen.toNat > kMaxBsmPayloadBytes
  · unfold V2xTrustVerifier.verifyChain at hyields
    rw [if_pos hadmitted] at hyields
    obtain ⟨-, hstatus⟩ := hyields
    exact absurd hstatus (by simp)
  obtain ⟨hlen, hmax⟩ := not_or.mp hadmitted
  obtain ⟨r, ⟨⟨hall, hlog⟩, -⟩ | hstop⟩ := verifyChain_yields hlen (not_lt.mp hmax) hyields
  · -- the last two stages are those of the message
    have hmem : ∀ st ∈ messageStages bsm r.payloadHash r.bsmSignature,
        st ∈ chainStages verifier.trustedRootKey bsm nowEpochS r :=
      fun st hst => List.mem_append_right _ (List.mem_append_right _ hst)
    have hhash : r.payloadHash.1 = .kOk := hall _ (hmem _ List.mem_cons_self)
    have hsignature : r.bsmSignature = .kOk :=
      hall _ (hmem _ (List.mem_cons_of_mem _ List.mem_cons_self))
    rw [hlog] at hcalls
    have hreply : r.payloadHash = sha256 bsm.signedMsg :=
      hcalls ⟨.computeSha256 bsm.signedMsg, r.payloadHash⟩
        (mem_callsOf.mpr ⟨_, hmem _ List.mem_cons_self, rfl⟩)
    have hcheck : r.bsmSignature = verifyEcc r.payloadHash.2 bsm.bsmSignature
        bsm.pseudonymCert.subjectPublicKey :=
      hcalls ⟨.verifyEccSignature r.payloadHash.2 bsm.bsmSignature
          bsm.pseudonymCert.subjectPublicKey, r.bsmSignature⟩
        (mem_callsOf.mpr ⟨_, hmem _ (List.mem_cons_of_mem _ List.mem_cons_self), rfl⟩)
    rw [← hreply, ← hcheck]
    exact ⟨hhash, hsignature⟩
  · obtain ⟨st, hmem, -, hreason⟩ := hstop.exists_stage
    exact absurd hreason.symm (chainStages_reason st hmem).1

/-- A check that accepts one signature under one key for two digests. -/
def AcceptsBoth (verifyEcc : Sha256Digest → CryptoSignature → EccPublicKey → CryptoStatus)
    (signature : CryptoSignature) (key : EccPublicKey) (digest digest' : Sha256Digest) : Prop :=
  digest ≠ digest' ∧ verifyEcc digest signature key = .kOk ∧ verifyEcc digest' signature key = .kOk

/-- **A signature in both roles.** Let the signature of a trusted message stand on a certificate.
Under the key of the signer it is accepted there exactly when the two strings are one, or the hash
collides on them, or the check accepts the signature for the digests of both. -/
theorem signature_in_both_roles_iff
    (hanswer : ∀ s q, Answered sha256 verifyEcc clock q (platform.answer s q).1)
    {verifier : V2xTrustVerifier} {bsm : V2xSignedBsm} {nowEpochS : UInt32} {s : σ}
    (htrusted : ((verifier.verifyChain bsm nowEpochS).run platform s).value = .kTrusted)
    {cert : V2xCertificate} (hsignature : cert.issuerSignature = bsm.bsmSignature) (s' : σ) :
    ((V2xTrustVerifier.verifyCertSignature cert bsm.pseudonymCert.subjectPublicKey).run platform
        s').value = true ↔
      bsm.signedMsg = cert.signedMsg.toList ∨
        (bsm.signedMsg ≠ cert.signedMsg.toList ∧
          sha256 bsm.signedMsg = sha256 cert.signedMsg.toList) ∨
        ((sha256 cert.signedMsg.toList).1 = .kOk ∧
          AcceptsBoth verifyEcc bsm.bsmSignature bsm.pseudonymCert.subjectPublicKey
            (sha256 bsm.signedMsg).2 (sha256 cert.signedMsg.toList).2) := by
  obtain ⟨hhash, hmessage⟩ := signature_of_kTrusted hanswer htrusted
  rw [verifyCertSignature_eq_true_iff hanswer, hsignature]
  constructor
  · rintro ⟨hhash', hcert⟩
    by_cases hstring : bsm.signedMsg = cert.signedMsg.toList
    · exact Or.inl hstring
    by_cases hdigest : (sha256 bsm.signedMsg).2 = (sha256 cert.signedMsg.toList).2
    · exact Or.inr (Or.inl ⟨hstring, Prod.ext (hhash.trans hhash'.symm) hdigest⟩)
    · exact Or.inr (Or.inr ⟨hhash', hdigest, hmessage, hcert⟩)
  · rintro (hstring | ⟨-, hcollision⟩ | ⟨hhash', -, -, hcert⟩)
    · rw [← hstring]
      exact ⟨hhash, hmessage⟩
    · rw [← hcollision]
      exact ⟨hhash, hmessage⟩
    · exact ⟨hhash', hcert⟩

/-- **The roles of a signature.** A message has the string of a certificate exactly when its payload
is 41 bytes long and is that string; one that the adapter passes on never does. Two certificates
have one string exactly when their keys and windows agree. On a platform that hashes and checks by
its arguments, let the verifier trust a message, and let a certificate carry the signature of that
message. Under the key of the signer it is accepted there exactly when the strings are one, or the
hash collides on the two, or the check accepts this signature for both of their digests. -/
theorem signature_roles :
    (∀ (bsm : V2xSignedBsm) (cert : V2xCertificate), bsm.signedMsg = cert.signedMsg.toList ↔
      bsm.payloadLen = 41 ∧ bsm.payload.load 0 41 = cert.signedMsg) ∧
    (∀ (data : Bytes 1472) (cert : V2xCertificate),
      (bsmOf data).signedMsg ≠ cert.signedMsg.toList) ∧
    (∀ cert cert' : V2xCertificate, cert.signedMsg.toList = cert'.signedMsg.toList ↔
      cert.subjectPublicKey = cert'.subjectPublicKey ∧
        cert.validFromEpochS = cert'.validFromEpochS ∧
        cert.validUntilEpochS = cert'.validUntilEpochS) ∧
    ∀ (sha256 : List UInt8 → CryptoStatus × Sha256Digest)
      (verifyEcc : Sha256Digest → CryptoSignature → EccPublicKey → CryptoStatus) (clock : UInt32)
      {σ : Type} (platform : Platform σ),
      (∀ s q, Answered sha256 verifyEcc clock q (platform.answer s q).1) →
      ∀ (verifier : V2xTrustVerifier) (bsm : V2xSignedBsm) (nowEpochS : UInt32)
        (cert : V2xCertificate) (s s' : σ),
        ((verifier.verifyChain bsm nowEpochS).run platform s).value = .kTrusted →
        cert.issuerSignature = bsm.bsmSignature →
        (((V2xTrustVerifier.verifyCertSignature cert bsm.pseudonymCert.subjectPublicKey).run
            platform s').value = true ↔
          (bsm.payloadLen = 41 ∧ bsm.payload.load 0 41 = cert.signedMsg) ∨
          (bsm.signedMsg ≠ cert.signedMsg.toList ∧
            sha256 bsm.signedMsg = sha256 cert.signedMsg.toList) ∨
          ((sha256 cert.signedMsg.toList).1 = .kOk ∧
            AcceptsBoth verifyEcc bsm.bsmSignature bsm.pseudonymCert.subjectPublicKey
              (sha256 bsm.signedMsg).2 (sha256 cert.signedMsg.toList).2)) := by
  refine ⟨signedMsg_eq_iff, signedMsg_bsmOf_ne, signedMsg_toList_eq_iff, ?_⟩
  intro sha256 verifyEcc clock σ platform hanswer verifier bsm nowEpochS cert s s' htrusted
    hsignature
  rw [← signedMsg_eq_iff]
  exact signature_in_both_roles_iff hanswer htrusted hsignature s'

end checks

/-! ### Keys that signed in both roles -/

section bothRoles

/-- 32 bytes, most significant first. -/
def bigEndian (n : ℕ) : Bytes 32 := (Bytes.leBytes 32 n).reverse

/-- The public key of the private key 1: the base point of P-256, compressed. -/
def keyOfOne : EccPublicKey :=
  (#v[3] : Bytes 1) ++
    bigEndian 0x6b17d1f2e12c4247f8bce6e563a440f277037d812deb33a0f4a13945d898c296

/-- The SHA-256 digest of the string of `certificateOfOne`. -/
def certificateDigest : Sha256Digest :=
  bigEndian 0xed286cd844c48c22dadf392a986af37642e74fdc389616b29f89774e9d219a86

/-- A signature of `keyOfOne` over `certificateDigest`. -/
def certificateSignature : CryptoSignature :=
  bigEndian 0x7cf27b188d034f7e8a52380304b51ac3c08969e277f21b35a60b48fc47669978 ++
    bigEndian 0xb50d73f868e3edd0b298b896ce90071d01b85cdf584418f422ca6025724419ff

/-- The SHA-256 digest of 16 zero bytes. -/
def messageDigest : Sha256Digest :=
  bigEndian 0x374708fff7719dd5979ec875d56cd2286f6d3cf7ec317a3b25632aab28ec37bb

/-- A key made for the one signature that is to fit two digests: with the base point as the point of
the signature, of which r is the abscissa, the private key is -(z + z') / 2r for the digests z and
z'. -/
def keyOfTwo : EccPublicKey :=
  (#v[2] : Bytes 1) ++
    bigEndian 0xc2a046e8424c42442280e8290b55c04f688fa3be4e0b53e5632d15bef8216355

/-- The signature that P-256 accepts under `keyOfTwo` for `messageDigest` and for
`certificateDigest`. -/
def doubleSignature : CryptoSignature :=
  bigEndian 0x6b17d1f2e12c4247f8bce6e563a440f277037d812deb33a0f4a13945d898c296 ++
    bigEndian 0x250f4e13595688d9de5fc7a59e80ef58f4b673e4ad598106bcc9bf0fc416e143

/-- The SHA-256 digest of the string of `certificateOfTwo`. -/
def certificateOfTwoDigest : Sha256Digest :=
  bigEndian 0x2823c498b24ed0633c95dc59a2dc1bf6966c9be4cca99bf24ecc15d5c1527337

/-- A signature of `keyOfOne` over `certificateOfTwoDigest`. -/
def certificateOfTwoSignature : CryptoSignature :=
  bigEndian 0x6ad9a337e6d2b7d8e267c4a8d04bc60bd617f2f57bc4eb58a72df11c2986bda5 ++
    bigEndian 0xdb8195273d347c4b77f87f9d23fb1a2e24e32aea52325a93f0ba72d519b621b2

/-- The certificate of `keyOfOne` for the seconds before 1000, with a signature. -/
def certificateOfOne (issuerSignature : CryptoSignature) : V2xCertificate where
  subjectPublicKey := keyOfOne
  validFromEpochS := 0
  validUntilEpochS := 1000
  issuerSignature

/-- The certificate of `keyOfTwo` for the seconds before 1000, signed by `keyOfOne`. -/
def certificateOfTwo : V2xCertificate where
  subjectPublicKey := keyOfTwo
  validFromEpochS := 0
  validUntilEpochS := 1000
  issuerSignature := certificateOfTwoSignature

/-- A message of 16 zero bytes, signed by `keyOfTwo`. -/
def doublyUsedBsm : V2xSignedBsm where
  payload := Bytes.zeros 192
  payloadLen := 16
  pseudonymCert := certificateOfTwo
  intermediateCert := certificateOfOne certificateSignature
  bsmSignature := doubleSignature

/-- SHA-256 of the strings of the two certificates and of the message. -/
def sha256OfOne (data : List UInt8) : CryptoStatus × Sha256Digest :=
  if data = (certificateOfOne certificateSignature).signedMsg.toList then (.kOk, certificateDigest)
  else if data = certificateOfTwo.signedMsg.toList then (.kOk, certificateOfTwoDigest)
  else (.kOk, messageDigest)

/-- What P-256 accepts of these signatures. -/
def acceptedByP256 : List (Sha256Digest × CryptoSignature × EccPublicKey) :=
  [(certificateDigest, certificateSignature, keyOfOne),
    (certificateOfTwoDigest, certificateOfTwoSignature, keyOfOne),
    (messageDigest, doubleSignature, keyOfTwo), (certificateDigest, doubleSignature, keyOfTwo)]

/-- The check of these signatures. -/
def verifyEccOfOne (digest : Sha256Digest) (signature : CryptoSignature) (key : EccPublicKey) :
    CryptoStatus :=
  if (digest, signature, key) ∈ acceptedByP256 then .kOk else .kVerifyFailed

/-- A platform with this hash and this check. -/
def platformOfOne : Platform PUnit :=
  Oracle.ofFun fun
    | .computeSha256 data => sha256OfOne data
    | .verifyEccSignature digest signature key => verifyEccOfOne digest signature key
    | q => (obligingPlatform.answer ⟨⟩ q).1

/-- It hashes and checks by its arguments. -/
theorem platformOfOne_answered (s : PUnit) (q : PlatformQuery) :
    Answered sha256OfOne verifyEccOfOne 100 q (platformOfOne.answer s q).1 := by
  cases q with
  | nowEpochS => exact rfl
  | computeSha256 data => exact rfl
  | verifyEccSignature digest signature publicKey => exact rfl
  | generateRandomNonce nonceOut => trivial
  | deriveSessionKey sessionNonce clientId => trivial
  | pqcVerify publicKey message signature => trivial

/-- `signature_roles` where the check accepts one signature for two digests: the message is trusted,
its string is not that of the certificate, and its signature passes for the certificate. -/
theorem signature_roles_doublyUsed :
    ((V2xTrustVerifier.verifyChain { trustedRootKey := keyOfOne } doublyUsedBsm 100).run
      platformOfOne ⟨⟩).value = .kTrusted ∧
    doublyUsedBsm.signedMsg ≠ (certificateOfOne doubleSignature).signedMsg.toList ∧
    ((V2xTrustVerifier.verifyCertSignature (certificateOfOne doubleSignature)
      doublyUsedBsm.pseudonymCert.subjectPublicKey).run platformOfOne ⟨⟩).value = true := by
  have htrusted : ((V2xTrustVerifier.verifyChain { trustedRootKey := keyOfOne } doublyUsedBsm
      100).run platformOfOne ⟨⟩).value = .kTrusted := by
    decide +kernel
  have happart : doublyUsedBsm.signedMsg ≠ (certificateOfOne doubleSignature).signedMsg.toList := by
    intro h
    have hlen := congrArg List.length h
    simp [V2xSignedBsm.signedMsg, doublyUsedBsm] at hlen
  have hhash : (sha256OfOne (certificateOfOne doubleSignature).signedMsg.toList).1 = .kOk := by
    decide +kernel
  have hboth : AcceptsBoth verifyEccOfOne doubleSignature keyOfTwo
      (sha256OfOne doublyUsedBsm.signedMsg).2
      (sha256OfOne (certificateOfOne doubleSignature).signedMsg.toList).2 := by
    unfold AcceptsBoth
    decide +kernel
  obtain ⟨-, -, -, hroles⟩ := signature_roles
  refine ⟨htrusted, happart, ?_⟩
  exact (hroles sha256OfOne verifyEccOfOne 100 platformOfOne platformOfOne_answered _ _ _ _ _ _
    htrusted rfl).mpr (Or.inr (Or.inr ⟨hhash, hboth⟩))

/-- A message whose payload is the string of that certificate. -/
def overlappingBsm : V2xSignedBsm where
  payload := (Bytes.zeros 192).store 0 (certificateOfOne certificateSignature).signedMsg
  payloadLen := 41
  pseudonymCert := certificateOfOne certificateSignature
  intermediateCert := certificateOfOne certificateSignature
  bsmSignature := certificateSignature

/-- The verifier admits its length, and the strings of the two roles are one. So the one signature
makes the message trusted and passes for the certificate. -/
theorem signature_roles_overlap :
    (¬ ∀ (cert : V2xCertificate) (bsm : V2xSignedBsm), bsm.payloadLen ≠ 0 →
      bsm.payloadLen.toNat ≤ kMaxBsmPayloadBytes → bsm.signedMsg ≠ cert.signedMsg.toList) ∧
    overlappingBsm.bsmSignature = (certificateOfOne certificateSignature).issuerSignature ∧
    ((V2xTrustVerifier.verifyChain { trustedRootKey := keyOfOne } overlappingBsm 100).run
      platformOfOne ⟨⟩).value = .kTrusted ∧
    ((V2xTrustVerifier.verifyCertSignature (certificateOfOne certificateSignature)
      overlappingBsm.pseudonymCert.subjectPublicKey).run platformOfOne ⟨⟩).value = true := by
  have hstring : overlappingBsm.signedMsg =
      (certificateOfOne certificateSignature).signedMsg.toList :=
    (signedMsg_eq_iff _ _).mpr ⟨rfl, Bytes.load_store _ _ _ _⟩
  have htrusted : ((V2xTrustVerifier.verifyChain { trustedRootKey := keyOfOne } overlappingBsm
      100).run platformOfOne ⟨⟩).value = .kTrusted := by
    decide +kernel
  have hcert := (signature_in_both_roles_iff platformOfOne_answered htrusted
    (show (certificateOfOne certificateSignature).issuerSignature = _ from rfl) ⟨⟩).mpr
      (Or.inl hstring)
  refine ⟨?_, rfl, htrusted, hcert⟩
  intro h
  exact h (certificateOfOne certificateSignature) overlappingBsm (by simp [overlappingBsm])
    (by simp [overlappingBsm, kMaxBsmPayloadBytes]) hstring

end bothRoles

end SotifPlausibility.V2x
