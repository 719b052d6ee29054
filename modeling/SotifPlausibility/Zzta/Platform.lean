import SotifPlausibility.Found.ByteCodec
import SotifPlausibility.Found.OracleProg

/-!
# The platform

Everything the authentication code asks of the world around it: the crypto platform layer, the
post-quantum signature provider and the clock. All three are interfaces without an implementation
the code may rely on, so their replies are an oracle's.

* `CryptoStatus` and the fixed-size byte types.
* `PlatformQuery`, `PlatformReply` — the calls and what comes back: a status, and the content of the
  buffer the callee was given to fill.
* `computeSha256`, `verifyEccSignature`, … — the calls as programs.
* `obligingPlatform` — a platform on which every call succeeds.

Source: `CryptoPlatformInterface.hpp`, `PqcSignaturePlatformInterface.hpp`; `V2xNetworkAdapter.hpp`,
`NowEpochSFn`.
-/

namespace SotifPlausibility.Zzta

open SotifPlausibility.Found

/-! ### Types -/

/-- A challenge of the challenge-response protocol. -/
abbrev Nonce := Bytes 32

/-- A SHA-256 digest. -/
abbrev Sha256Digest := Bytes 32

/-- A raw ECC-P256 signature. -/
abbrev CryptoSignature := Bytes 64

/-- An AES-256 session key. -/
abbrev SessionKey := Bytes 32

/-- A compressed P-256 public key. -/
abbrev EccPublicKey := Bytes 33

/-- A client identifier. -/
abbrev ClientId := Bytes 8

/-- An ML-DSA-65 public key. -/
abbrev PqcSigPublicKey := Bytes 1952

/-- An ML-DSA-65 signature. -/
abbrev PqcSignature := Bytes 3309

/-- Return codes of the crypto platform.
Source: `CryptoPlatformInterface.hpp`, `CryptoStatus`. -/
inductive CryptoStatus where
  | kOk
  | kInvalidParam
  | kHwFault
  | kVerifyFailed
  | kNotSupported
  | kInternalError
  deriving DecidableEq, Repr

/-! ### Calls -/

/-- What the code asks of the platform. -/
inductive PlatformQuery where
  /-- The clock of the V2X adapter, in Unix epoch seconds. -/
  | nowEpochS
  /-- `GenerateRandomNonce`, with the buffer as it is before the call. -/
  | generateRandomNonce (nonceOut : Nonce)
  | computeSha256 (data : List UInt8)
  | verifyEccSignature (digest : Sha256Digest) (signature : CryptoSignature)
      (publicKey : EccPublicKey)
  | deriveSessionKey (sessionNonce : Nonce) (clientId : ClientId)
  /-- `PqcSignaturePlatformInterface::Verify`. -/
  | pqcVerify (publicKey : PqcSigPublicKey) (message : List UInt8) (signature : PqcSignature)
  deriving DecidableEq

/-- What comes back: the status, and the output buffer whatever the status is. -/
@[reducible] def PlatformReply : PlatformQuery → Type
  | .nowEpochS => UInt32
  | .generateRandomNonce _ => CryptoStatus × Nonce
  | .computeSha256 _ => CryptoStatus × Sha256Digest
  | .verifyEccSignature _ _ _ => CryptoStatus
  | .deriveSessionKey _ _ => CryptoStatus × SessionKey
  | .pqcVerify _ _ _ => CryptoStatus

/-- Code that calls the platform. -/
abbrev PlatformProg := OracleProg PlatformQuery PlatformReply

/-- A call of the platform. -/
abbrev PlatformCall := Call PlatformQuery PlatformReply

/-- A platform: faulty, stateful or adversarial as it likes. -/
abbrev Platform := Oracle PlatformQuery PlatformReply

/-- Reads the clock. -/
def nowFn : PlatformProg UInt32 := .call PlatformQuery.nowEpochS

/-- Fills a nonce. -/
def generateRandomNonce (nonceOut : Nonce) : PlatformProg (CryptoStatus × Nonce) :=
  .call (PlatformQuery.generateRandomNonce nonceOut)

/-- Hashes bytes. -/
def computeSha256 (data : List UInt8) : PlatformProg (CryptoStatus × Sha256Digest) :=
  .call (PlatformQuery.computeSha256 data)

/-- Checks a classical signature. -/
def verifyEccSignature (digest : Sha256Digest) (signature : CryptoSignature)
    (publicKey : EccPublicKey) : PlatformProg CryptoStatus :=
  .call (PlatformQuery.verifyEccSignature digest signature publicKey)

/-- Derives a session key. -/
def deriveSessionKey (sessionNonce : Nonce) (clientId : ClientId) :
    PlatformProg (CryptoStatus × SessionKey) :=
  .call (PlatformQuery.deriveSessionKey sessionNonce clientId)

/-- Checks a post-quantum signature. -/
def pqcVerify (publicKey : PqcSigPublicKey) (message : List UInt8) (signature : PqcSignature) :
    PlatformProg CryptoStatus :=
  .call (PlatformQuery.pqcVerify publicKey message signature)

/-- The status of a check of a post-quantum signature. -/
def PlatformCall.pqcStatus : PlatformCall → Option CryptoStatus
  | ⟨.pqcVerify _ _ _, status⟩ => some status
  | _ => none

/-- A platform on which every call succeeds, at second 100. -/
def obligingPlatform : Platform PUnit :=
  Oracle.ofFun fun
    | .nowEpochS => 100
    | .generateRandomNonce nonceOut => (.kOk, nonceOut)
    | .computeSha256 _ => (.kOk, Bytes.zeros 32)
    | .verifyEccSignature _ _ _ => .kOk
    | .deriveSessionKey _ _ => (.kOk, Bytes.zeros 32)
    | .pqcVerify _ _ _ => .kOk

end SotifPlausibility.Zzta
