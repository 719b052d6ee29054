import SotifPlausibility.Soa.Event
import SotifPlausibility.V2x.TrustVerifier

/-!
# The V2X network adapter

A frame from the radio is unpacked, its certificate chain is verified, and only then an event is
published that carries its content.

* `WireFrame`, `unpackWireFrame` — 468 bytes: a length, the payload, two certificates, a signature.
* `CooperativeAwarenessAdvisory`, `packAdvisory` — what is published, and its bytes.
* `V2xNetworkAdapter.deserialise` follows the source; `deserialise_yields` says what it asks and
  answers with any platform, over the stages of the chain and one more for the hash of the key.
* `V2xNetworkAdapter.serialise` follows the source: the way back into a frame.

Source: `NetworkAdapter.hpp`, `CooperativeAwarenessAdvisory.hpp`, `V2xNetworkAdapter.cpp`.
-/

namespace SotifPlausibility.V2x

open SotifPlausibility.Found SotifPlausibility.Soa SotifPlausibility.Zzta

/-! ### Frames -/

/-- A raw frame: the buffer and the number of bytes received.
Source: `NetworkAdapter.hpp`, `WireFrame`. -/
structure WireFrame where
  data : Bytes 1472 := Bytes.zeros 1472
  length : UInt16 := 0
  deriving DecidableEq

/-- The length of the only frames accepted: the payload's length (2), the payload (192), two
certificates (105 each), a signature (64). -/
def kV2xWireFrameBytes : UInt16 := 468

/-- The length of the payload proper. -/
def kBsmCorePayloadBytes : UInt16 := 16

/-- Source: `V2xNetworkAdapter.cpp`, `UnpackCert`. -/
def unpackCert (bytes : Bytes 105) : V2xCertificate where
  subjectPublicKey := bytes.load 0 33
  validFromEpochS := Bytes.unpackU32 (bytes.load 33 4)
  validUntilEpochS := Bytes.unpackU32 (bytes.load 37 4)
  issuerSignature := bytes.load 41 64

/-- Source: `V2xNetworkAdapter.cpp`, `V2xNetworkAdapter::UnpackWireFrame`. -/
def unpackWireFrame (frame : WireFrame) : Option V2xSignedBsm :=
  if frame.length ≠ kV2xWireFrameBytes then none
  else
    let payloadLen := Bytes.unpackU16 (frame.data.load 0 2)
    if payloadLen.toNat > kMaxBsmPayloadBytes then none
    else
      some
        { payload := frame.data.load 2 192
          payloadLen
          pseudonymCert := unpackCert (frame.data.load 194 105)
          intermediateCert := unpackCert (frame.data.load 299 105)
          bsmSignature := frame.data.load 404 64 }

/-! ### Advisories -/

/-- The content of a verified message.
Source: `CooperativeAwarenessAdvisory.hpp`, `CooperativeAwarenessAdvisory`. -/
structure CooperativeAwarenessAdvisory where
  latitude1e7 : Int32
  longitude1e7 : Int32
  speedCmS : Int16
  headingDecidegrees : Int16
  msgTimestampEpochS : UInt32
  /-- The first bytes of the hash of the pseudonym key. -/
  pseudonymCorrelationHash : Bytes 8
  trustStatus : V2xTrustStatus
  deriving DecidableEq

/-- The ids of an advisory event. -/
def kV2xAdvisoryServiceId : UInt16 := 0x1900

@[inherit_doc kV2xAdvisoryServiceId]
def kV2xAdvisoryEventId : UInt16 := 0x1901

/-- The content of a message that was trusted, with the digest of its pseudonym key.
Source: `V2xNetworkAdapter.cpp`, `V2xNetworkAdapter::Deserialise`. -/
def V2xSignedBsm.advisory (bsm : V2xSignedBsm) (pubKeyDigest : Sha256Digest) :
    CooperativeAwarenessAdvisory where
  latitude1e7 := (Bytes.unpackU32 (bsm.payload.load 0 4)).toInt32
  longitude1e7 := (Bytes.unpackU32 (bsm.payload.load 4 4)).toInt32
  speedCmS := (Bytes.unpackU16 (bsm.payload.load 8 2)).toInt16
  headingDecidegrees := (Bytes.unpackU16 (bsm.payload.load 10 2)).toInt16
  msgTimestampEpochS := Bytes.unpackU32 (bsm.payload.load 12 4)
  pseudonymCorrelationHash := pubKeyDigest.load 0 8
  trustStatus := .kTrusted

/-- Writes an advisory into an event. The bytes from 25 on stay what they were.
Source: `V2xNetworkAdapter.cpp`, `V2xNetworkAdapter::PackAdvisory`. -/
def packAdvisory (advisory : CooperativeAwarenessAdvisory) (event : SoaEvent) : SoaEvent where
  serviceId := kV2xAdvisoryServiceId
  eventId := kV2xAdvisoryEventId
  sessionId := advisory.msgTimestampEpochS
  payloadLen := 25
  payload :=
    ((((((event.payload.store 0 (Bytes.packU32 advisory.latitude1e7.toUInt32)).store 4
      (Bytes.packU32 advisory.longitude1e7.toUInt32)).store 8
      (Bytes.packU16 advisory.speedCmS.toUInt16)).store 10
      (Bytes.packU16 advisory.headingDecidegrees.toUInt16)).store 12
      (Bytes.packU32 advisory.msgTimestampEpochS)).store 16
      advisory.pseudonymCorrelationHash).store 24 #v[advisory.trustStatus.toUInt8]

/-! ### The adapter -/

/-- The adapter; its crypto platform and its clock are the oracle its programs run under.
Source: `V2xNetworkAdapter.hpp`, `V2xNetworkAdapter`. -/
structure V2xNetworkAdapter where
  verifier : V2xTrustVerifier
  lastTrustStatus : V2xTrustStatus := .kInvalidInput
  initialised : Bool := false
  deriving DecidableEq

/-- The result of a call, with what it left in the event and the adapter. -/
structure DeserialiseOutcome where
  result : VoidResult
  event : SoaEvent
  adapter : V2xNetworkAdapter

namespace V2xNetworkAdapter

/-- Source: `V2xNetworkAdapter.cpp`, `V2xNetworkAdapter::Init`. -/
def init (adapter : V2xNetworkAdapter) : VoidResult × V2xNetworkAdapter :=
  (.ok, { adapter with initialised := true })

/-- Source: `V2xNetworkAdapter.hpp`, `V2xNetworkAdapter::GetLastTrustStatus`. -/
def getLastTrustStatus (adapter : V2xNetworkAdapter) : V2xTrustStatus := adapter.lastTrustStatus

/-- Source: `V2xNetworkAdapter.cpp`, `V2xNetworkAdapter::Deserialise`. -/
def deserialise (adapter : V2xNetworkAdapter) (frame : WireFrame) (event : SoaEvent) :
    PlatformProg DeserialiseOutcome :=
  if adapter.initialised = false then
    pure { result := .err .kNotInitialized, event, adapter }
  else
    match unpackWireFrame frame with
    | none =>
        pure { result := .err .kInvalidArgument, event
               adapter := { adapter with lastTrustStatus := .kInvalidInput } }
    | some bsm =>
        if bsm.payloadLen ≠ kBsmCorePayloadBytes then
          pure { result := .err .kInvalidArgument, event
                 adapter := { adapter with lastTrustStatus := .kInvalidInput } }
        else do
          let nowEpochS ← nowFn
          let status ← adapter.verifier.verifyChain bsm nowEpochS
          if status = .kCryptoError then
            pure { result := .err .kUnknown, event
                   adapter := { adapter with lastTrustStatus := status } }
          else if status ≠ .kTrusted then
            pure { result := .err .kUnauthorized, event
                   adapter := { adapter with lastTrustStatus := status } }
          else do
            let pubKeyDigest ← computeSha256 bsm.pseudonymCert.subjectPublicKey.toList
            if pubKeyDigest.1 ≠ .kOk then
              pure { result := .err .kUnknown, event
                     adapter := { adapter with lastTrustStatus := .kCryptoError } }
            else
              pure { result := .ok, event := packAdvisory (bsm.advisory pubKeyDigest.2) event
                     adapter := { adapter with lastTrustStatus := status } }

/-- Puts the bytes of an advisory event that are in use at the start of a frame. The bytes after
them stay what they were.
Source: `V2xNetworkAdapter.cpp`, `V2xNetworkAdapter::Serialise`. -/
def serialise (adapter : V2xNetworkAdapter) (event : SoaEvent) (frame : WireFrame) :
    VoidResult × WireFrame :=
  if adapter.initialised = false then (.err .kNotInitialized, frame)
  else if event.serviceId ≠ kV2xAdvisoryServiceId ∨ event.eventId ≠ kV2xAdvisoryEventId then
    (.err .kInvalidArgument, frame)
  else
    (.ok,
      { data := frame.data.store 0
          (event.payload.load 0 event.payloadLen.toNat event.payloadLen_within)
        length := event.payloadLen.toUInt16 })

end V2xNetworkAdapter

/-! ### What the adapter asks and answers -/

/-- The result that goes with a status. -/
def V2xTrustStatus.result : V2xTrustStatus → VoidResult
  | .kTrusted => .ok
  | .kInvalidInput => .err .kInvalidArgument
  | .kCryptoError => .err .kUnknown
  | _ => .err .kUnauthorized

/-- Only a trusted message gives success. -/
theorem eq_kTrusted_of_result {status : V2xTrustStatus} (h : status.result = .ok) :
    status = .kTrusted := by
  cases status with
  | kTrusted => rfl
  | _ => exact absurd h (by simp [V2xTrustStatus.result])

/-- The stages of a frame: those of its chain, and the hash of the pseudonym key. -/
def deserialiseStages (root : EccPublicKey) (bsm : V2xSignedBsm) (nowEpochS : UInt32)
    (r : ChainReplies) : List (Stage PlatformCall V2xTrustStatus) :=
  chainStages root bsm nowEpochS r ++
    [⟨some ⟨.computeSha256 bsm.pseudonymCert.subjectPublicKey.toList, r.keyHash⟩,
      r.keyHash.1 = .kOk, .kCryptoError⟩]

/-- A frame of the right length whose payload has the length of a core message. -/
def WellFormed (frame : WireFrame) : Prop :=
  frame.length = 468 ∧ Bytes.unpackU16 (frame.data.load 0 2) = 16

/-- The message a well-formed frame unpacks to. -/
def bsmOf (data : Bytes 1472) : V2xSignedBsm where
  payload := data.load 2 192
  payloadLen := 16
  pseudonymCert := unpackCert (data.load 194 105)
  intermediateCert := unpackCert (data.load 299 105)
  bsmSignature := data.load 404 64

section yields

variable {adapter : V2xNetworkAdapter} {frame : WireFrame} {event : SoaEvent}
  {calls : List PlatformCall} {out : DeserialiseOutcome}

/-- **Which frames are accepted**, and what they unpack to. -/
theorem unpackWireFrame_eq_some_iff {bsm : V2xSignedBsm} :
    unpackWireFrame frame = some bsm ↔
      frame.length = 468 ∧ (Bytes.unpackU16 (frame.data.load 0 2)).toNat ≤ 192 ∧
        bsm =
          { payload := frame.data.load 2 192
            payloadLen := Bytes.unpackU16 (frame.data.load 0 2)
            pseudonymCert := unpackCert (frame.data.load 194 105)
            intermediateCert := unpackCert (frame.data.load 299 105)
            bsmSignature := frame.data.load 404 64 } := by
  unfold unpackWireFrame
  dsimp only
  split_ifs with hlen hpayload
  · simp only [kV2xWireFrameBytes] at hlen
    simp [hlen]
  · simp only [kMaxBsmPayloadBytes] at hpayload
    simp [not_le.mpr hpayload]
  · simp only [kV2xWireFrameBytes, not_not] at hlen
    simp only [kMaxBsmPayloadBytes, not_lt] at hpayload
    simp [hlen, hpayload, eq_comm]

/-- A well-formed frame is unpacked. -/
theorem unpackWireFrame_of_wellFormed (h : WellFormed frame) :
    unpackWireFrame frame = some (bsmOf frame.data) := by
  rw [unpackWireFrame_eq_some_iff, h.2]
  exact ⟨h.1, by decide, rfl⟩

/-- What a frame that is not well formed unpacks to, if anything, has another payload length. -/
theorem payloadLen_ne_of_not_wellFormed (h : ¬ WellFormed frame) {bsm : V2xSignedBsm}
    (hbsm : unpackWireFrame frame = some bsm) : bsm.payloadLen ≠ kBsmCorePayloadBytes := by
  obtain ⟨hlen, -, rfl⟩ := unpackWireFrame_eq_some_iff.mp hbsm
  intro hcore
  exact h ⟨hlen, hcore⟩

/-- An adapter that is not initialised refuses every frame without a call. -/
theorem deserialise_of_not_initialised (hinit : ¬ adapter.initialised = true) :
    adapter.deserialise frame event = pure { result := .err .kNotInitialized, event, adapter } := by
  unfold V2xNetworkAdapter.deserialise
  exact if_pos (Bool.eq_false_iff.mpr hinit)

/-- A frame that is not well formed is refused without a call. -/
theorem deserialise_yields_of_not_wellFormed (hinit : adapter.initialised = true)
    (hframe : ¬ WellFormed frame) (h : (adapter.deserialise frame event).Yields calls out) :
    calls = [] ∧ out = { result := .err .kInvalidArgument, event
                         adapter := { adapter with lastTrustStatus := .kInvalidInput } } := by
  unfold V2xNetworkAdapter.deserialise at h
  rw [if_neg (by simp [hinit])] at h
  cases hbsm : unpackWireFrame frame with
  | none =>
      rw [hbsm] at h
      exact h
  | some bsm =>
      rw [hbsm] at h
      dsimp only at h
      rw [if_pos (payloadLen_ne_of_not_wellFormed hframe hbsm)] at h
      exact h

/-- **What the adapter asks and answers.** With any platform, a well-formed frame makes one read of
the clock and then goes through the stages of the frame. The result is that of the status, and the
event is written only on success. -/
theorem deserialise_yields (hinit : adapter.initialised = true) (hframe : WellFormed frame)
    (h : (adapter.deserialise frame event).Yields calls out) :
    ∃ (nowEpochS : UInt32) (r : ChainReplies) (palCalls : List PlatformCall)
      (status : V2xTrustStatus), calls = ⟨.nowEpochS, nowEpochS⟩ :: palCalls ∧
        Follows .kTrusted (deserialiseStages adapter.verifier.trustedRootKey (bsmOf frame.data)
          nowEpochS r) palCalls status ∧
        out = { result := status.result
                event := if status = .kTrusted then
                    packAdvisory ((bsmOf frame.data).advisory r.keyHash.2) event
                  else event
                adapter := { adapter with lastTrustStatus := status } } := by
  unfold V2xNetworkAdapter.deserialise at h
  rw [if_neg (by simp [hinit]), unpackWireFrame_of_wellFormed hframe] at h
  dsimp only at h
  rw [if_neg (by simp [bsmOf, kBsmCorePayloadBytes])] at h
  obtain ⟨nowEpochS, calls₁, rest₁, rfl, hclock, h₁⟩ := OracleProg.yields_bind.mp h
  obtain rfl := OracleProg.yields_call.mp hclock
  obtain ⟨status, calls₂, rest₂, rfl, hchain, h₂⟩ := OracleProg.yields_bind.mp h₁
  obtain ⟨r, ⟨hpass, rfl⟩ | hstop⟩ := verifyChain_yields (by simp [bsmOf])
    (by simp [bsmOf, kMaxBsmPayloadBytes]) hchain
  · -- the chain is trusted: the hash of the key decides
    rw [if_neg (by decide), if_neg (by decide)] at h₂
    obtain ⟨keyHash, calls₃, rest₃, rfl, hhash, h₃⟩ := OracleProg.yields_bind.mp h₂
    obtain rfl := OracleProg.yields_call.mp hhash
    have hpass' : Passes (chainStages adapter.verifier.trustedRootKey (bsmOf frame.data) nowEpochS
      { r with keyHash }) calls₂ := hpass
    by_cases hkey : keyHash.1 = .kOk
    · rw [if_neg (by simp [hkey])] at h₃
      obtain ⟨rfl, rfl⟩ := h₃
      exact ⟨nowEpochS, { r with keyHash }, calls₂ ++ [⟨.computeSha256 _, keyHash⟩], .kTrusted, rfl,
        hpass'.append_follows (Or.inl ⟨passes_cons hkey passes_nil, rfl⟩), rfl⟩
    · rw [if_pos hkey] at h₃
      obtain ⟨rfl, rfl⟩ := h₃
      exact ⟨nowEpochS, { r with keyHash }, calls₂ ++ [⟨.computeSha256 _, keyHash⟩], .kCryptoError,
        rfl, hpass'.append_follows (Or.inr (stops_cons_of_not hkey)), rfl⟩
  · -- the chain is not trusted
    obtain ⟨st, hmem, -, hreason⟩ := hstop.exists_stage
    obtain ⟨htrusted, hinput⟩ := chainStages_reason st hmem
    rw [← hreason] at htrusted hinput
    have hresult : rest₂ = [] ∧
        out = { result := status.result, event
                adapter := { adapter with lastTrustStatus := status } } := by
      by_cases hcrypto : status = .kCryptoError
      · rw [if_pos hcrypto] at h₂
        obtain ⟨rfl, rfl⟩ := h₂
        exact ⟨rfl, by rw [hcrypto]; rfl⟩
      · rw [if_neg hcrypto, if_pos htrusted] at h₂
        obtain ⟨rfl, rfl⟩ := h₂
        refine ⟨rfl, ?_⟩
        cases status with
        | kTrusted => exact absurd rfl htrusted
        | kInvalidInput => exact absurd rfl hinput
        | kCryptoError => exact absurd rfl hcrypto
        | _ => rfl
    obtain ⟨rfl, rfl⟩ := hresult
    refine ⟨nowEpochS, r, calls₂, status, ?_, hstop.append_follows _, ?_⟩
    · rw [List.append_nil]
      rfl
    · rw [if_neg htrusted]

end yields

end SotifPlausibility.V2x
