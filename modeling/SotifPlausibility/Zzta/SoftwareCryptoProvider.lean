import SotifPlausibility.Found.ShiftRegister
import SotifPlausibility.Zzta.SpdmProtocolEngine

/-!
# The software crypto provider

The one implementation of the crypto platform in the repository, for tests on a host: challenges
from a shift register, SHA-256 in software, session keys by HKDF, and signatures that are hashes
under a constant salt.

* `SoftwareCryptoProvider` — its register, which is never zero.
* `generateRandomNonce`, `sha256Impl`, `verifyEccSignature`, `deriveSessionKey` follow the source.
* `verifyEccSignature_ok_iff` — what a signature has to be.
* `softwarePlatform` — the provider as a platform.

Source: `CryptoPlatformInterface.hpp`, `CryptoPlatformInterface.cpp`.
-/

namespace SotifPlausibility.Zzta

open SotifPlausibility.Found

/-! ### The register -/

/-- The feedback mask of the register. -/
def kLfsrMask : UInt32 := 0xB4000000

/-- One step of the register.
Source: `CryptoPlatformInterface.cpp`, `SoftwareCryptoProvider::LfsrNext`. -/
def lfsrStep (state : UInt32) : UInt32 :=
  let lsb := state &&& 0x1
  let state := state >>> 1
  if lsb ≠ 0 then state ^^^ kLfsrMask else state

/-- A step is a shift of a register with feedback. -/
theorem lfsrStep_toBitVec (state : UInt32) :
    (lfsrStep state).toBitVec = ShiftRegister.step kLfsrMask.toBitVec state.toBitVec := by
  have hbit : state &&& 0x1 ≠ 0 ↔ state.toBitVec.getLsbD 0 = true := by
    have hmask : (0x1 : UInt32).toBitVec = BitVec.twoPow 32 0 := rfl
    rw [ne_eq, ← UInt32.toBitVec_inj, UInt32.toBitVec_and, hmask, BitVec.and_twoPow]
    cases state.toBitVec.getLsbD 0 <;> decide
  unfold lfsrStep ShiftRegister.step
  by_cases h : state &&& 0x1 ≠ 0
  · rw [if_pos h, if_pos (hbit.mp h)]
    rfl
  · rw [if_neg h, if_neg (mt hbit.mpr h)]
    rfl

/-- A register that is not zero does not become zero. -/
theorem lfsrStep_ne_zero {state : UInt32} (h : state ≠ 0) : lfsrStep state ≠ 0 := by
  intro hzero
  have hstep : ShiftRegister.step kLfsrMask.toBitVec state.toBitVec = 0#32 := by
    rw [← lfsrStep_toBitVec, hzero]
    rfl
  apply h
  apply UInt32.toBitVec_inj.mp
  exact ShiftRegister.eq_zero_of_step_eq_zero rfl hstep

/-- The provider. Its register is "never zero".
Source: `CryptoPlatformInterface.hpp`, `SoftwareCryptoProvider`. -/
structure SoftwareCryptoProvider where
  lfsrState : UInt32
  lfsrState_ne_zero : lfsrState ≠ 0

namespace SoftwareCryptoProvider

/-- Source: `CryptoPlatformInterface.cpp`, the constructor. -/
def new (seed : UInt32) : SoftwareCryptoProvider where
  lfsrState := if seed ≠ 0 then seed else 0x1
  lfsrState_ne_zero := by
    split_ifs with h
    · exact h
    · decide

/-- The seed of a provider that is given none. -/
def kDefaultSeed : UInt32 := 0xDEADBEEF

/-- Source: `CryptoPlatformInterface.cpp`, `SoftwareCryptoProvider::LfsrNext`. -/
def lfsrNext (provider : SoftwareCryptoProvider) : UInt32 × SoftwareCryptoProvider :=
  (lfsrStep provider.lfsrState,
    ⟨lfsrStep provider.lfsrState, lfsrStep_ne_zero provider.lfsrState_ne_zero⟩)

/-- The first `n` words of a nonce, one step of the register each. -/
def fillNonce (provider : SoftwareCryptoProvider) (nonceOut : Nonce) (n : ℕ) :
    Nonce × SoftwareCryptoProvider :=
  (List.range n).foldl
    (fun acc i =>
      let next := acc.2.lfsrNext
      (acc.1.store (4 * i) (Bytes.packU32 next.1), next.2))
    (nonceOut, provider)

/-- Fills a nonce with eight words.
Source: `CryptoPlatformInterface.cpp`, `SoftwareCryptoProvider::GenerateRandomNonce`. -/
def generateRandomNonce (provider : SoftwareCryptoProvider) (nonceOut : Nonce) :
    Nonce × SoftwareCryptoProvider :=
  provider.fillNonce nonceOut 8

end SoftwareCryptoProvider

/-! ### SHA-256 -/

/-- Source: `CryptoPlatformInterface.cpp`, `kSha256K`. -/
def kSha256K : Vector UInt32 64 :=
  #v[0x428A2F98, 0x71374491, 0xB5C0FBCF, 0xE9B5DBA5,
    0x3956C25B, 0x59F111F1, 0x923F82A4, 0xAB1C5ED5,
    0xD807AA98, 0x12835B01, 0x243185BE, 0x550C7DC3,
    0x72BE5D74, 0x80DEB1FE, 0x9BDC06A7, 0xC19BF174,
    0xE49B69C1, 0xEFBE4786, 0x0FC19DC6, 0x240CA1CC,
    0x2DE92C6F, 0x4A7484AA, 0x5CB0A9DC, 0x76F988DA,
    0x983E5152, 0xA831C66D, 0xB00327C8, 0xBF597FC7,
    0xC6E00BF3, 0xD5A79147, 0x06CA6351, 0x14292967,
    0x27B70A85, 0x2E1B2138, 0x4D2C6DFC, 0x53380D13,
    0x650A7354, 0x766A0ABB, 0x81C2C92E, 0x92722C85,
    0xA2BFE8A1, 0xA81A664B, 0xC24B8B70, 0xC76C51A3,
    0xD192E819, 0xD6990624, 0xF40E3585, 0x106AA070,
    0x19A4C116, 0x1E376C08, 0x2748774C, 0x34B0BCB5,
    0x391C0CB3, 0x4ED8AA4A, 0x5B9CCA4F, 0x682E6FF3,
    0x748F82EE, 0x78A5636F, 0x84C87814, 0x8CC70208,
    0x90BEFFFA, 0xA4506CEB, 0xBEF9A3F7, 0xC67178F2]

/-- Source: `CryptoPlatformInterface.cpp`, `kSha256InitHash`. -/
def kSha256InitHash : Vector UInt32 8 :=
  #v[0x6A09E667, 0xBB67AE85, 0x3C6EF372, 0xA54FF53A,
    0x510E527F, 0x9B05688C, 0x1F83D9AB, 0x5BE0CD19]

/-- Source: `CryptoPlatformInterface.cpp`, `Rotr32`. -/
def rotr32 (x n : UInt32) : UInt32 := (x >>> n) ||| (x <<< (32 - n))

/-- Source: `CryptoPlatformInterface.cpp`, `Bswap32`. -/
def bswap32 (x : UInt32) : UInt32 :=
  ((x &&& 0x000000FF) <<< 24) ||| ((x &&& 0x0000FF00) <<< 8) ||| ((x &&& 0x00FF0000) >>> 8) |||
    ((x &&& 0xFF000000) >>> 24)

/-- Source: `CryptoPlatformInterface.cpp`, `LoadBe32`. -/
def loadBe32 (p : Bytes 4) : UInt32 := bswap32 (Bytes.unpackU32 p)

/-- Source: `CryptoPlatformInterface.cpp`, `StoreBe32`. -/
def storeBe32 (w : UInt32) : Bytes 4 := Bytes.packU32 (bswap32 w)

/-- The padded length: the message, the marker, zeros and the length, up to a multiple of 64. -/
def paddedLen (dataLen : ℕ) : ℕ := ((dataLen + 9 + 63) / 64) * 64

/-- The byte at a place of the padded message.
Source: `CryptoPlatformInterface.cpp`, `SoftwareCryptoProvider::Sha256Impl`, the loop that fills a
block. -/
def paddedByte (data : List UInt8) (idx : ℕ) : UInt8 :=
  let bitLen : UInt64 := UInt64.ofNat data.length * 8
  if h : idx < data.length then data[idx]
  else if idx = data.length then 0x80
  else if idx ≥ paddedLen data.length - 8 then
    let shift := (7 - (idx - (paddedLen data.length - 8))) * 8
    ((bitLen >>> UInt64.ofNat shift) &&& 0xFF).toUInt8
  else 0x00

/-- The block that starts at a place of the padded message. -/
def fillBlock (data : List UInt8) (blockStart : ℕ) : Bytes 64 :=
  Vector.ofFn fun j : Fin 64 => paddedByte data (blockStart + j)

/-- The message schedule of a block. The second loop runs over the words from 16 on.
Source: `CryptoPlatformInterface.cpp`, `SoftwareCryptoProvider::Sha256Impl`. -/
def messageSchedule (block : Bytes 64) : Vector UInt32 64 :=
  let w := (List.finRange 16).foldl
    (fun (w : Vector UInt32 64) (t : Fin 16) =>
      w.set t (loadBe32 (block.load (4 * t) 4 (by omega))))
    (Vector.replicate 64 0)
  (List.finRange 48).foldl
    (fun (w : Vector UInt32 64) (k : Fin 48) =>
      let w15 := w[(k : ℕ) + 1]
      let w2 := w[(k : ℕ) + 14]
      let s0 := rotr32 w15 7 ^^^ rotr32 w15 18 ^^^ (w15 >>> 3)
      let s1 := rotr32 w2 17 ^^^ rotr32 w2 19 ^^^ (w2 >>> 10)
      w.set ((k : ℕ) + 16) (w[(k : ℕ)] + s0 + w[(k : ℕ) + 9] + s1))
    w

/-- The working variables of the compression function. -/
structure Sha256Working where
  a : UInt32
  b : UInt32
  c : UInt32
  d : UInt32
  e : UInt32
  f : UInt32
  g : UInt32
  hh : UInt32

/-- One round of the compression function. -/
def sha256Round (w : Vector UInt32 64) (v : Sha256Working) (t : Fin 64) : Sha256Working :=
  let S1 := rotr32 v.e 6 ^^^ rotr32 v.e 11 ^^^ rotr32 v.e 25
  let ch := (v.e &&& v.f) ^^^ (~~~v.e &&& v.g)
  let temp1 := v.hh + S1 + ch + kSha256K[t] + w[t]
  let S0 := rotr32 v.a 2 ^^^ rotr32 v.a 13 ^^^ rotr32 v.a 22
  let maj := (v.a &&& v.b) ^^^ (v.a &&& v.c) ^^^ (v.b &&& v.c)
  let temp2 := S0 + maj
  { hh := v.g, g := v.f, f := v.e, e := v.d + temp1
    d := v.c, c := v.b, b := v.a, a := temp1 + temp2 }

/-- The compression function.
Source: `CryptoPlatformInterface.cpp`, `SoftwareCryptoProvider::Sha256Impl`, the body of the block
loop. -/
def compress (h : Vector UInt32 8) (block : Bytes 64) : Vector UInt32 8 :=
  let w := messageSchedule block
  let v := (List.finRange 64).foldl (sha256Round w)
    { a := h[0], b := h[1], c := h[2], d := h[3], e := h[4], f := h[5], g := h[6], hh := h[7] }
  #v[h[0] + v.a, h[1] + v.b, h[2] + v.c, h[3] + v.d, h[4] + v.e, h[5] + v.f, h[6] + v.g,
    h[7] + v.hh]

/-- The digest of a hash state, most significant bytes first. -/
def digestOf (h : Vector UInt32 8) : Sha256Digest :=
  (List.finRange 8).foldl
    (fun (out : Sha256Digest) (i : Fin 8) => out.store (4 * i) (storeBe32 (h.get i))) (Bytes.zeros 32)

/-- Source: `CryptoPlatformInterface.cpp`, `SoftwareCryptoProvider::Sha256Impl`. -/
def sha256Impl (data : List UInt8) : Sha256Digest :=
  digestOf
    ((List.range (paddedLen data.length / 64)).foldl
      (fun h i => compress h (fillBlock data (64 * i))) kSha256InitHash)

example : sha256Impl [0x61, 0x62, 0x63] =
    #v[0xBA, 0x78, 0x16, 0xBF, 0x8F, 0x01, 0xCF, 0xEA, 0x41, 0x41, 0x40, 0xDE, 0x5D, 0xAE, 0x22,
      0x23, 0xB0, 0x03, 0x61, 0xA3, 0x96, 0x17, 0x7A, 0x9C, 0xB4, 0x10, 0xFF, 0x61, 0xF2, 0x00,
      0x15, 0xAD] := by
  decide +kernel

/-! ### Signatures -/

/-- A constant that stands for the secret of the platform.
Source: `CryptoPlatformInterface.cpp`, `kMockMasterSalt`. -/
def kMockMasterSalt : Bytes 32 :=
  #v[0xA3, 0x7F, 0x92, 0xD1, 0xE4, 0x05, 0xB8, 0xC6,
    0x2A, 0xF3, 0x19, 0x88, 0x4E, 0xD7, 0x60, 0x3B,
    0x11, 0xFC, 0x22, 0x59, 0x87, 0xAE, 0xD4, 0xC0,
    0x53, 0x7A, 0xE9, 0xB2, 0x6E, 0x14, 0xF8, 0x9D]

/-- The one key whose signatures are accepted.
Source: `CryptoPlatformInterface.cpp`, `kMockEccPublicKey`. -/
def kMockEccPublicKey : EccPublicKey :=
  #v[0x02,
    0x6B, 0x17, 0xD1, 0xF2, 0xE1, 0x2C, 0x42, 0x47,
    0xF8, 0xBC, 0xE6, 0xE5, 0x63, 0xA4, 0x40, 0xF2,
    0x77, 0x03, 0x7D, 0x81, 0x2D, 0xEB, 0x33, 0xA0,
    0xF4, 0xA1, 0x39, 0x45, 0xD8, 0x98, 0xC2, 0x96]

/-- The first half of the signature expected for a digest. -/
def rPart (digest : Sha256Digest) : Sha256Digest :=
  sha256Impl (digest.toList ++ kMockMasterSalt.toList)

/-- The second half of the signature expected for a digest. -/
def sPart (digest : Sha256Digest) : Sha256Digest :=
  sha256Impl (kMockMasterSalt.toList ++ digest.toList)

/-- The differences are gathered over all bytes, of the key and then of both halves.
Source: `CryptoPlatformInterface.cpp`, `SoftwareCryptoProvider::VerifyEccSignature`. -/
def SoftwareCryptoProvider.verifyEccSignature (digest : Sha256Digest)
    (signature : CryptoSignature) (publicKey : EccPublicKey) : CryptoStatus :=
  let keyDiff := (List.finRange 33).foldl
    (fun (diff : UInt8) (i : Fin 33) => diff ||| (publicKey[i] ^^^ kMockEccPublicKey[i])) 0
  if keyDiff ≠ 0 then .kVerifyFailed
  else
    let sigDiff := (List.finRange 32).foldl
      (fun (diff : UInt8) (i : Fin 32) =>
        let diff := diff ||| (signature[(i : ℕ)] ^^^ (rPart digest)[i])
        diff ||| (signature[(i : ℕ) + 32] ^^^ (sPart digest)[i]))
      0
    if sigDiff = 0 then .kOk else .kVerifyFailed

/-- The signature the tests make for a digest.
Source: `test_V2xTrustVerifier.cpp`, `test_V2xNetworkAdapter.cpp`, `SignDigestMock`. -/
def signDigestMock (digest : Sha256Digest) : CryptoSignature :=
  ((Bytes.zeros 64).store 0 (rPart digest)).store 32 (sPart digest)

/-! ### Session keys -/

/-- A key over a pad, and the pad alone behind it. -/
def hmacBlock (pad : UInt8) (key : Bytes 32) : Bytes 64 :=
  Vector.ofFn fun i : Fin 64 => if h : (i : ℕ) < 32 then pad ^^^ getElem key i h else pad

/-- What is hashed first. -/
def hmacInner (key : Bytes 32) (message : List UInt8) : List UInt8 :=
  (hmacBlock 0x36 key).toList ++ message

/-- What is hashed second. -/
def hmacOuter (key : Bytes 32) (message : List UInt8) : List UInt8 :=
  (hmacBlock 0x5C key).toList ++ (sha256Impl (hmacInner key message)).toList

/-- The keyed hash that both stages of the derivation compute. -/
def hmacSha256 (key : Bytes 32) (message : List UInt8) : Sha256Digest :=
  sha256Impl (hmacOuter key message)

/-- The label of a session key, "zzta-session-v1".
Source: `CryptoPlatformInterface.cpp`, `kHkdfInfo`. -/
def kHkdfInfo : List UInt8 :=
  [0x7A, 0x7A, 0x74, 0x61, 0x2D, 0x73, 0x65, 0x73, 0x73, 0x69, 0x6F, 0x6E, 0x2D, 0x76, 0x31]

/-- What is extracted from a nonce and a client. -/
def sessionPrk (sessionNonce : Nonce) (clientId : ClientId) : Sha256Digest :=
  hmacSha256 kMockMasterSalt (sessionNonce.toList ++ clientId.toList)

/-- Extracts from the nonce and the client, and expands by one block.
Source: `CryptoPlatformInterface.cpp`, `SoftwareCryptoProvider::DeriveSessionKey`. -/
def SoftwareCryptoProvider.deriveSessionKey (sessionNonce : Nonce) (clientId : ClientId) :
    SessionKey :=
  hmacSha256 (sessionPrk sessionNonce clientId) (kHkdfInfo ++ [0x01])

/-! ### The provider as a platform -/

/-- The provider behind the interface, with the clock and the post-quantum check that are not its
own. `ComputeSha256` refuses to hash nothing and leaves the buffer, which its callers zero.
Source: `CryptoPlatformInterface.cpp`, the overrides of `SoftwareCryptoProvider`. -/
def softwarePlatform (now : UInt32)
    (pqc : PqcSigPublicKey → List UInt8 → PqcSignature → CryptoStatus) :
    Platform SoftwareCryptoProvider where
  answer provider
    | .nowEpochS => (now, provider)
    | .generateRandomNonce nonceOut =>
        let filled := provider.generateRandomNonce nonceOut
        ((.kOk, filled.1), filled.2)
    | .computeSha256 data =>
        if data = [] then ((.kInvalidParam, Bytes.zeros 32), provider)
        else ((.kOk, sha256Impl data), provider)
    | .verifyEccSignature digest signature publicKey =>
        (SoftwareCryptoProvider.verifyEccSignature digest signature publicKey, provider)
    | .deriveSessionKey sessionNonce clientId =>
        ((.kOk, SoftwareCryptoProvider.deriveSessionKey sessionNonce clientId), provider)
    | .pqcVerify publicKey message signature => (pqc publicKey message signature, provider)

/-! ### What a signature has to be -/

/-- Differences that are gathered are all zero when nothing is gathered. -/
theorem foldl_or_map_eq_zero_iff {α : Type} (f : α → UInt8) (l : List α) :
    l.foldl (fun diff i => diff ||| f i) 0 = 0 ↔ ∀ i ∈ l, f i = 0 := by
  rw [← List.foldl_map (f := f) (g := (· ||| ·)), foldl_or_eq_zero_iff]
  simp

/-- The first half of a signature. -/
theorem load_signDigestMock_fst (digest : Sha256Digest) :
    (signDigestMock digest).load 0 32 = rPart digest := by
  unfold signDigestMock
  rw [Bytes.load_store_of_disjoint _ _ _ (by decide), Bytes.load_store]

/-- The second half of a signature. -/
theorem load_signDigestMock_snd (digest : Sha256Digest) :
    (signDigestMock digest).load 32 32 = sPart digest := by
  unfold signDigestMock
  rw [Bytes.load_store]

/-- The comparison of a key with the provider's finds no difference. -/
theorem keyDiff_eq_zero_iff {publicKey : EccPublicKey} :
    (List.finRange 33).foldl
      (fun (diff : UInt8) (i : Fin 33) => diff ||| (publicKey[i] ^^^ kMockEccPublicKey[i])) 0 = 0 ↔
        publicKey = kMockEccPublicKey := by
  rw [foldl_or_map_eq_zero_iff (fun i : Fin 33 => publicKey[i] ^^^ kMockEccPublicKey[i])]
  constructor
  · intro h
    apply Vector.ext
    intro i hi
    exact UInt8.xor_eq_zero_iff.mp (h ⟨i, hi⟩ (List.mem_finRange _))
  · rintro rfl i -
    exact UInt8.xor_self

/-- The comparison of a signature, both halves in one loop, finds no difference. -/
theorem signatureDiff_eq_zero_iff {digest : Sha256Digest} {signature : CryptoSignature} :
    (List.finRange 32).foldl
      (fun (diff : UInt8) (i : Fin 32) =>
        let diff := diff ||| (signature[(i : ℕ)] ^^^ (rPart digest)[i])
        diff ||| (signature[(i : ℕ) + 32] ^^^ (sPart digest)[i])) 0 = 0 ↔
        signature = signDigestMock digest := by
  simp only [UInt8.or_assoc]
  rw [foldl_or_map_eq_zero_iff (fun i : Fin 32 => signature[(i : ℕ)] ^^^ (rPart digest)[i] |||
    signature[(i : ℕ) + 32] ^^^ (sPart digest)[i])]
  constructor
  · intro h
    have hbytes : ∀ i (hi : i < 32), signature[i] = (rPart digest)[i] ∧
        signature[i + 32] = (sPart digest)[i] := by
      intro i hi
      have hor := UInt8.or_eq_zero_iff.mp (h ⟨i, hi⟩ (List.mem_finRange _))
      exact ⟨UInt8.xor_eq_zero_iff.mp hor.1, UInt8.xor_eq_zero_iff.mp hor.2⟩
    apply Bytes.ext_load 32 32 rfl
    · rw [load_signDigestMock_fst]
      ext i hi
      simpa using congrArg UInt8.toNat (hbytes i hi).1
    · rw [load_signDigestMock_snd]
      ext i hi
      simpa [Nat.add_comm] using congrArg UInt8.toNat (hbytes i hi).2
  · rintro rfl i -
    have hfst : (signDigestMock digest)[(i : ℕ)] = (rPart digest)[i] := by
      rw [← load_signDigestMock_fst]
      simp
    have hsnd : (signDigestMock digest)[(i : ℕ) + 32] = (sPart digest)[i] := by
      rw [← load_signDigestMock_snd]
      simp [Nat.add_comm]
    rw [hfst, hsnd, UInt8.xor_self, UInt8.xor_self, UInt8.or_self]

/-- **What the provider accepts**: its own key, and the one signature its tests would make for the
digest. Anyone can make it. -/
theorem verifyEccSignature_ok_iff {digest : Sha256Digest} {signature : CryptoSignature}
    {publicKey : EccPublicKey} :
    SoftwareCryptoProvider.verifyEccSignature digest signature publicKey = .kOk ↔
      publicKey = kMockEccPublicKey ∧ signature = signDigestMock digest := by
  unfold SoftwareCryptoProvider.verifyEccSignature
  dsimp only
  split_ifs with hkey hsignature
  · exact iff_of_false (by simp) (fun h => hkey (keyDiff_eq_zero_iff.mpr h.1))
  · exact iff_of_true rfl
      ⟨keyDiff_eq_zero_iff.mp (not_not.mp hkey), signatureDiff_eq_zero_iff.mp hsignature⟩
  · exact iff_of_false (by simp) (fun h => hsignature (signatureDiff_eq_zero_iff.mpr h.2))

end SotifPlausibility.Zzta
