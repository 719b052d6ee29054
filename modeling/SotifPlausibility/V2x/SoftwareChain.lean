import SotifPlausibility.V2x.WireFormat
import SotifPlausibility.Zzta.SoftwareHandshake

/-!
# Certificate chains over the software provider

The adapter on a host: its crypto platform is the software provider, and its frames come from the
sender of the tests.

* `Sender`, `makeValidCert`, `makeValidWireFrame` follow the sender.
* `chainStatus`, `deserialise_software` — over the provider the adapter is a function of the frame
  and the clock.
* `accepted_iff_sent` — it accepts the frames of a sender, and no others.
* `sent_frame_outcome` — what becomes of the frame of a sender.
* `altered_frame_accepted_iff` — which frames are accepted with the signatures of another one.
* `repeated_frame_accepted_iff` — a frame is accepted as often as it is sent.

Source: `test_V2xNetworkAdapter.cpp`, `MakeValidCert` and `MakeValidWireFrame`;
`V2xNetworkAdapter.cpp`, `V2xNetworkAdapter::Deserialise`; `V2xTrustVerifier.cpp`;
`CryptoPlatformInterface.cpp`, `SoftwareCryptoProvider`.
-/

namespace SotifPlausibility.V2x

open SotifPlausibility.Found SotifPlausibility.Soa SotifPlausibility.Zzta

/-! ### The sender -/

section sender

/-- The bytes of a message, by the casts of the sender.
Source: `test_V2xNetworkAdapter.cpp`, `MakeValidWireFrame`. -/
def CoreMessage.payloadBytes (core : CoreMessage) : Bytes 16 :=
  (((((Bytes.zeros 16).store 0 (Bytes.packU32 core.latitude1e7.toUInt32)).store 4
    (Bytes.packU32 core.longitude1e7.toUInt32)).store 8
    (Bytes.packU16 core.speedCmS.toUInt16)).store 10
    (Bytes.packU16 core.headingDecidegrees.toUInt16)).store 12
    (Bytes.packU32 core.msgTimestampEpochS)

/-- A certificate for the key of the provider, signed with it.
Source: `test_V2xNetworkAdapter.cpp`, `MakeValidCert`. -/
def makeValidCert (validFrom validUntil : UInt32) : V2xCertificate :=
  let cert : V2xCertificate :=
    { subjectPublicKey := kMockEccPublicKey, validFromEpochS := validFrom
      validUntilEpochS := validUntil, issuerSignature := Bytes.zeros 64 }
  { cert with issuerSignature := signDigestMock (sha256Impl cert.signedMsg.toList) }

/-- What a sender chooses: a message, the windows of its certificates, and the bytes of the payload
behind the message. -/
structure Sender where
  core : CoreMessage
  unused : Bytes 176
  pseudonymFrom : UInt32
  pseudonymUntil : UInt32
  intermediateFrom : UInt32
  intermediateUntil : UInt32
  deriving DecidableEq

/-- The signed message of a sender. -/
def Sender.bsm (sender : Sender) : V2xSignedBsm where
  payload := ((Bytes.zeros 192).store 0 sender.core.payloadBytes).store 16 sender.unused
  payloadLen := kBsmCorePayloadBytes
  pseudonymCert := makeValidCert sender.pseudonymFrom sender.pseudonymUntil
  intermediateCert := makeValidCert sender.intermediateFrom sender.intermediateUntil
  bsmSignature := signDigestMock (sha256Impl sender.core.payloadBytes.toList)

/-- The frame of the tests: both certificates have one window, and the rest of the frame is zero.
Source: `test_V2xNetworkAdapter.cpp`, `MakeValidWireFrame`. -/
def makeValidWireFrame (core : CoreMessage) (certValidFrom certValidUntil : UInt32) : WireFrame :=
  packWireFrame
    (Sender.bsm
      { core, unused := Bytes.zeros 176, pseudonymFrom := certValidFrom
        pseudonymUntil := certValidUntil, intermediateFrom := certValidFrom
        intermediateUntil := certValidUntil })
    (Bytes.zeros 1472)

/-- The message of the tests.
Source: `test_V2xNetworkAdapter.cpp`,
`test_deserialise_accepts_valid_frame_and_publishes_advisory`. -/
def testCore : CoreMessage where
  latitude1e7 := 240500000
  longitude1e7 := 1214500000
  speedCmS := 1500
  headingDecidegrees := 900
  msgTimestampEpochS := 1499

/-- The sender of the tests. -/
def testSender : Sender where
  core := testCore
  unused := Bytes.zeros 176
  pseudonymFrom := 1000
  pseudonymUntil := 2000
  intermediateFrom := 1000
  intermediateUntil := 2000

/-- The frame of the tests is one packed by this sender. -/
theorem makeValidWireFrame_testCore :
    makeValidWireFrame testCore 1000 2000 = packWireFrame testSender.bsm (Bytes.zeros 1472) := rfl

/-- A signed 32-bit number survives packing. -/
theorem ofInt_leInt_packU32 (x : Int32) :
    Int32.ofInt (Bytes.packU32 x.toUInt32).leInt = x := by
  rw [← Bytes.toInt_toInt32_unpackU32, Bytes.unpackU32_packU32, Int32.ofInt_toInt,
    Int32.toInt32_toUInt32]

/-- A signed 16-bit number survives packing. -/
theorem ofInt_leInt_packU16 (x : Int16) :
    Int16.ofInt (Bytes.packU16 x.toUInt16).leInt = x := by
  rw [← Bytes.toInt_toInt16_unpackU16, Bytes.unpackU16_packU16, Int16.ofInt_toInt,
    Int16.toInt16_toUInt16]

/-- Four bytes are those of the signed number they stand for. -/
theorem packU32_ofInt_leInt (b : Bytes 4) : Bytes.packU32 (Int32.ofInt b.leInt).toUInt32 = b := by
  rw [← Bytes.toInt_toInt32_unpackU32, Int32.ofInt_toInt, UInt32.toUInt32_toInt32,
    Bytes.packU32_unpackU32]

/-- Two bytes are those of the signed number they stand for. -/
theorem packU16_ofInt_leInt (b : Bytes 2) : Bytes.packU16 (Int16.ofInt b.leInt).toUInt16 = b := by
  rw [← Bytes.toInt_toInt16_unpackU16, Int16.ofInt_toInt, UInt16.toUInt16_toInt16,
    Bytes.packU16_unpackU16]

/-- The bytes of a message stand for it. -/
theorem decode_payloadBytes (core : CoreMessage) : CoreMessage.decode core.payloadBytes = core := by
  unfold CoreMessage.decode CoreMessage.payloadBytes
  simp (disch := decide) only [Bytes.load_store, Bytes.load_store_of_disjoint,
    ofInt_leInt_packU32, ofInt_leInt_packU16, ← Bytes.toNat_unpackU32_eq, Bytes.unpackU32_packU32,
    UInt32.ofNat_toNat]

/-- Any bytes are those of a message. -/
theorem payloadBytes_decode (b : Bytes 16) : (CoreMessage.decode b).payloadBytes = b := by
  unfold CoreMessage.decode CoreMessage.payloadBytes
  -- field by field: latitude, longitude, speed, heading, time stamp
  refine Bytes.ext_load 4 12 rfl ?_ (Bytes.ext_load 4 8 rfl ?_ (Bytes.ext_load 2 6 rfl ?_
    (Bytes.ext_load 2 4 rfl ?_ ?_))) <;>
  simp (disch := decide) only [Bytes.load_load, Bytes.load_store, Bytes.load_store_of_disjoint,
    packU32_ofInt_leInt, packU16_ofInt_leInt, ← Bytes.toNat_unpackU32_eq, UInt32.ofNat_toNat,
    Bytes.packU32_unpackU32]

/-- The issuer's signature is not signed. -/
theorem signedMsg_issuerSignature (cert : V2xCertificate) (signature : CryptoSignature) :
    { cert with issuerSignature := signature }.signedMsg = cert.signedMsg := rfl

/-- The certificates of the sender are those for its key that it signed. -/
theorem eq_makeValidCert_iff {cert : V2xCertificate} :
    cert = makeValidCert cert.validFromEpochS cert.validUntilEpochS ↔
      cert.subjectPublicKey = kMockEccPublicKey ∧
        cert.issuerSignature = signDigestMock (sha256Impl cert.signedMsg.toList) := by
  obtain ⟨key, validFrom, validUntil, signature⟩ := cert
  unfold makeValidCert
  dsimp only
  rw [V2xCertificate.mk.injEq, ← signedMsg_issuerSignature _ signature]
  constructor
  · rintro ⟨rfl, -, -, hsignature⟩
    exact ⟨rfl, hsignature⟩
  · rintro ⟨rfl, hsignature⟩
    exact ⟨rfl, rfl, rfl, hsignature⟩

/-- The payload begins with the bytes of the message. -/
theorem load_payload_bsm (sender : Sender) :
    sender.bsm.payload.load 0 16 = sender.core.payloadBytes := by
  unfold Sender.bsm
  rw [Bytes.load_store_of_disjoint _ _ _ (by decide), Bytes.load_store]

end sender

/-! ### The adapter over the provider -/

section software

variable (now : UInt32) (pqc : PqcSigPublicKey → List UInt8 → PqcSignature → CryptoStatus)

/-- A signature that the provider accepts, under the one key it knows. -/
def SignedWith (key : EccPublicKey) (msg : List UInt8) (signature : CryptoSignature) : Prop :=
  key = kMockEccPublicKey ∧ signature = signDigestMock (sha256Impl msg)

instance (key : EccPublicKey) (msg : List UInt8) (signature : CryptoSignature) :
    Decidable (SignedWith key msg signature) :=
  inferInstanceAs (Decidable (_ ∧ _))

/-- A certificate that the holder of a key signed. -/
def CertSignedWith (cert : V2xCertificate) (key : EccPublicKey) : Prop :=
  SignedWith key cert.signedMsg.toList cert.issuerSignature

instance (cert : V2xCertificate) (key : EccPublicKey) : Decidable (CertSignedWith cert key) :=
  inferInstanceAs (Decidable (SignedWith _ _ _))

/-- The bytes of a message that are signed. -/
def V2xSignedBsm.signedPayload (bsm : V2xSignedBsm) : List UInt8 :=
  bsm.payload.toList.take bsm.payloadLen.toNat

/-- The status of a chain over the provider. -/
def chainStatus (root : EccPublicKey) (bsm : V2xSignedBsm) : V2xTrustStatus :=
  if ¬ CertSignedWith bsm.intermediateCert root then .kRootSignatureInvalid
  else if ¬ bsm.intermediateCert.withinValidity now then .kIntermediateExpired
  else if ¬ CertSignedWith bsm.pseudonymCert bsm.intermediateCert.subjectPublicKey then
    .kLeafSignatureInvalid
  else if ¬ bsm.pseudonymCert.withinValidity now then .kLeafExpired
  else if ¬ SignedWith bsm.pseudonymCert.subjectPublicKey bsm.signedPayload bsm.bsmSignature then
    .kBsmSignatureInvalid
  else .kTrusted

/-- The status of a frame over the provider. -/
def frameStatus (root : EccPublicKey) (frame : WireFrame) : V2xTrustStatus :=
  match unpackWireFrame frame with
  | none => .kInvalidInput
  | some bsm =>
      if bsm.payloadLen ≠ kBsmCorePayloadBytes then .kInvalidInput else chainStatus now root bsm

variable (provider : SoftwareCryptoProvider)

/-- The clock of the software platform. -/
theorem answer_nowEpochS :
    (softwarePlatform now pqc).answer provider .nowEpochS = (now, provider) := rfl

/-- The check of a certificate, over the provider. -/
theorem verifyCertSignature_software (cert : V2xCertificate) (key : EccPublicKey) :
    ∃ calls, (V2xTrustVerifier.verifyCertSignature cert key).run (softwarePlatform now pqc)
      provider = { value := decide (CertSignedWith cert key), calls, oracle := provider } := by
  have hmsg : cert.signedMsg.toList ≠ [] := by
    intro hnil
    exact absurd (congrArg List.length hnil) (by simp)
  have hverify : decide (SoftwareCryptoProvider.verifyEccSignature
      (sha256Impl cert.signedMsg.toList) cert.issuerSignature key = .kOk) =
        decide (CertSignedWith cert key) :=
    decide_eq_decide.mpr verifyEccSignature_ok_iff
  unfold V2xTrustVerifier.verifyCertSignature
  rw [computeSha256, OracleProg.run_bind, OracleProg.run_call, answer_computeSha256 now pqc hmsg]
  dsimp only
  rw [if_neg (by simp), verifyEccSignature, OracleProg.run_bind, OracleProg.run_call, ← hverify]
  exact ⟨_, rfl⟩

/-- **The verifier over the provider** is a function of the message and the time. -/
theorem verifyChain_software (verifier : V2xTrustVerifier) (bsm : V2xSignedBsm)
    (hlen : bsm.payloadLen = kBsmCorePayloadBytes) :
    ∃ calls, (verifier.verifyChain bsm now).run (softwarePlatform now pqc) provider =
      { value := chainStatus now verifier.trustedRootKey bsm, calls, oracle := provider } := by
  have hpayload : bsm.signedPayload ≠ [] := by
    intro hnil
    have hlength := congrArg List.length hnil
    rw [V2xSignedBsm.signedPayload, hlen, List.length_take, Vector.length_toList] at hlength
    exact absurd hlength (by decide)
  obtain ⟨calls₁, hcert₁⟩ := verifyCertSignature_software now pqc provider bsm.intermediateCert
    verifier.trustedRootKey
  obtain ⟨calls₂, hcert₂⟩ := verifyCertSignature_software now pqc provider bsm.pseudonymCert
    bsm.intermediateCert.subjectPublicKey
  unfold V2xTrustVerifier.verifyChain chainStatus
  rw [if_neg (by rw [hlen]; decide), OracleProg.run_bind, hcert₁]
  dsimp only
  by_cases hroot : CertSignedWith bsm.intermediateCert verifier.trustedRootKey
  swap
  · rw [if_pos (decide_eq_false hroot), if_pos hroot]
    exact ⟨_, rfl⟩
  rw [if_neg (by simp [hroot]), if_neg (not_not.mpr hroot)]
  by_cases hwindow₁ : bsm.intermediateCert.withinValidity now = true
  swap
  · rw [if_pos (Bool.eq_false_iff.mpr hwindow₁), if_pos hwindow₁]
    exact ⟨_, rfl⟩
  rw [if_neg (by simp [hwindow₁]), if_neg (not_not.mpr hwindow₁), OracleProg.run_bind, hcert₂]
  dsimp only
  by_cases hleaf : CertSignedWith bsm.pseudonymCert bsm.intermediateCert.subjectPublicKey
  swap
  · rw [if_pos (decide_eq_false hleaf), if_pos hleaf]
    exact ⟨_, rfl⟩
  rw [if_neg (by simp [hleaf]), if_neg (not_not.mpr hleaf)]
  by_cases hwindow₂ : bsm.pseudonymCert.withinValidity now = true
  swap
  · rw [if_pos (Bool.eq_false_iff.mpr hwindow₂), if_pos hwindow₂]
    exact ⟨_, rfl⟩
  rw [if_neg (by simp [hwindow₂]), if_neg (not_not.mpr hwindow₂), computeSha256,
    OracleProg.run_bind, OracleProg.run_call, ← V2xSignedBsm.signedPayload,
    answer_computeSha256 now pqc hpayload]
  dsimp only
  rw [if_neg (by simp), verifyEccSignature, OracleProg.run_bind, OracleProg.run_call]
  dsimp only [softwarePlatform]
  by_cases hsigned : SignedWith bsm.pseudonymCert.subjectPublicKey bsm.signedPayload
    bsm.bsmSignature
  · rw [if_neg (not_not.mpr (verifyEccSignature_ok_iff.mpr hsigned)), if_neg (not_not.mpr hsigned)]
    exact ⟨_, rfl⟩
  · rw [if_pos (mt verifyEccSignature_ok_iff.mp hsigned), if_pos hsigned]
    exact ⟨_, rfl⟩

variable {root : EccPublicKey} {frame : WireFrame} {bsm : V2xSignedBsm}

/-- When a chain is trusted. -/
theorem chainStatus_eq_kTrusted_iff :
    chainStatus now root bsm = .kTrusted ↔
      CertSignedWith bsm.intermediateCert root ∧ bsm.intermediateCert.withinValidity now = true ∧
        CertSignedWith bsm.pseudonymCert bsm.intermediateCert.subjectPublicKey ∧
        bsm.pseudonymCert.withinValidity now = true ∧
        SignedWith bsm.pseudonymCert.subjectPublicKey bsm.signedPayload bsm.bsmSignature := by
  unfold chainStatus
  split_ifs with hroot hwindow₁ hleaf hwindow₂ hsigned
  · exact iff_of_true rfl ⟨hroot, hwindow₁, hleaf, hwindow₂, hsigned⟩
  · exact iff_of_false (by simp) fun h => hsigned h.2.2.2.2
  · exact iff_of_false (by simp) fun h => hwindow₂ h.2.2.2.1
  · exact iff_of_false (by simp) fun h => hleaf h.2.2.1
  · exact iff_of_false (by simp) fun h => hwindow₁ h.2.1
  · exact iff_of_false (by simp) fun h => hroot h.1

/-- A chain that is not trusted is refused as unauthorised: no hash fails over the provider. -/
theorem result_chainStatus (h : chainStatus now root bsm ≠ .kTrusted) :
    (chainStatus now root bsm).result = .err .kUnauthorized ∧
      chainStatus now root bsm ≠ .kCryptoError := by
  unfold chainStatus at h ⊢
  split_ifs at h ⊢ <;> first | exact ⟨rfl, V2xTrustStatus.noConfusion⟩ | exact absurd rfl h

/-- The status of a well-formed frame is that of its chain. -/
theorem frameStatus_of_wellFormed (h : WellFormed frame) :
    frameStatus now root frame = chainStatus now root (bsmOf frame.data) := by
  unfold frameStatus
  rw [unpackWireFrame_of_wellFormed h]
  exact if_neg (not_not.mpr rfl)

/-- Any other frame is invalid input. -/
theorem frameStatus_of_not_wellFormed (h : ¬ WellFormed frame) :
    frameStatus now root frame = .kInvalidInput := by
  unfold frameStatus
  cases hbsm : unpackWireFrame frame with
  | none => rfl
  | some bsm => exact if_pos (payloadLen_ne_of_not_wellFormed h hbsm)

/-- When a frame is trusted. -/
theorem frameStatus_eq_kTrusted_iff :
    frameStatus now root frame = .kTrusted ↔
      WellFormed frame ∧ chainStatus now root (bsmOf frame.data) = .kTrusted := by
  by_cases h : WellFormed frame
  · rw [frameStatus_of_wellFormed now h]
    exact (and_iff_right h).symm
  · rw [frameStatus_of_not_wellFormed now h]
    exact iff_of_false (by simp) fun htrusted => h htrusted.1

/-- What an initialised adapter over the provider leaves. -/
def softwareOutcome (adapter : V2xNetworkAdapter) (frame : WireFrame) (event : SoaEvent) :
    DeserialiseOutcome :=
  let status := frameStatus now adapter.verifier.trustedRootKey frame
  { result := status.result
    event := if status = .kTrusted then
        packAdvisory ((bsmOf frame.data).advisory
          (sha256Impl (bsmOf frame.data).pseudonymCert.subjectPublicKey.toList)) event
      else event
    adapter := { adapter with lastTrustStatus := status } }

/-- **The adapter over the provider** is a function of the frame and the time, and leaves the
provider alone. -/
theorem deserialise_software {adapter : V2xNetworkAdapter} (hinit : adapter.initialised = true)
    (frame : WireFrame) (event : SoaEvent) :
    ∃ calls, (adapter.deserialise frame event).run (softwarePlatform now pqc) provider =
      { value := softwareOutcome now adapter frame event, calls, oracle := provider } := by
  unfold V2xNetworkAdapter.deserialise
  rw [if_neg (by simp [hinit])]
  by_cases hframe : WellFormed frame
  swap
  · have hstatus : frameStatus now adapter.verifier.trustedRootKey frame = .kInvalidInput :=
      frameStatus_of_not_wellFormed now hframe
    have hout : softwareOutcome now adapter frame event =
        { result := .err .kInvalidArgument, event
          adapter := { adapter with lastTrustStatus := .kInvalidInput } } := by
      unfold softwareOutcome
      rw [hstatus]
      rfl
    rw [hout]
    cases hbsm : unpackWireFrame frame with
    | none => exact ⟨_, rfl⟩
    | some bsm =>
        dsimp only
        rw [if_pos (payloadLen_ne_of_not_wellFormed hframe hbsm)]
        exact ⟨_, rfl⟩
  have hkey : (bsmOf frame.data).pseudonymCert.subjectPublicKey.toList ≠ [] := by
    intro hnil
    exact absurd (congrArg List.length hnil) (by simp)
  obtain ⟨calls, hchain⟩ := verifyChain_software now pqc provider adapter.verifier
    (bsmOf frame.data) rfl
  rw [unpackWireFrame_of_wellFormed hframe]
  unfold softwareOutcome
  dsimp only
  rw [frameStatus_of_wellFormed now hframe, if_neg (by simp [bsmOf, kBsmCorePayloadBytes]), nowFn,
    OracleProg.run_bind, OracleProg.run_call, answer_nowEpochS]
  dsimp only
  rw [OracleProg.run_bind, hchain]
  dsimp only
  by_cases htrusted : chainStatus now adapter.verifier.trustedRootKey (bsmOf frame.data) = .kTrusted
  · rw [htrusted, if_neg (by simp), if_neg (by simp), computeSha256,
      OracleProg.run_bind, OracleProg.run_call, answer_computeSha256 now pqc hkey]
    exact ⟨_, rfl⟩
  · obtain ⟨hresult, hcrypto⟩ := result_chainStatus now htrusted
    rw [if_neg hcrypto, if_pos htrusted, hresult, if_neg htrusted]
    exact ⟨_, rfl⟩

/-! ### Which frames are accepted -/

/-- The window of the intermediate certificate holds a time. -/
def Sender.IntermediateValidAt (sender : Sender) (nowEpochS : UInt32) : Prop :=
  sender.intermediateFrom ≤ nowEpochS ∧ nowEpochS < sender.intermediateUntil

/-- The window of the pseudonym certificate holds a time. -/
def Sender.PseudonymValidAt (sender : Sender) (nowEpochS : UInt32) : Prop :=
  sender.pseudonymFrom ≤ nowEpochS ∧ nowEpochS < sender.pseudonymUntil

/-- Its certificates are valid at second 1500. -/
theorem testSender_valid : testSender.IntermediateValidAt 1500 ∧ testSender.PseudonymValidAt 1500 :=
  ⟨⟨by decide, by decide⟩, ⟨by decide, by decide⟩⟩

/-- At second 9999 they are not. -/
theorem testSender_expired : ¬ testSender.IntermediateValidAt 9999 := by
  rintro ⟨-, huntil⟩
  exact absurd huntil (by decide)

/-- A certificate of the tests is signed with the key of the provider. -/
theorem certSignedWith_makeValidCert {validFrom validUntil : UInt32} {key : EccPublicKey} :
    CertSignedWith (makeValidCert validFrom validUntil) key ↔ key = kMockEccPublicKey :=
  and_iff_left (eq_makeValidCert_iff.mp rfl).2

/-- When a certificate of the tests is valid. -/
theorem withinValidity_makeValidCert (validFrom validUntil : UInt32) :
    (makeValidCert validFrom validUntil).withinValidity now = true ↔
      validFrom ≤ now ∧ now < validUntil := by
  unfold V2xCertificate.withinValidity makeValidCert
  simp

/-- What a sender signs is its message. -/
theorem signedPayload_bsm (sender : Sender) :
    sender.bsm.signedPayload = sender.core.payloadBytes.toList := by
  rw [← load_payload_bsm]
  exact take_payload _

/-- The payload of a sender is signed. -/
theorem signedWith_bsm (sender : Sender) :
    SignedWith kMockEccPublicKey sender.bsm.signedPayload sender.bsm.bsmSignature := by
  rw [signedPayload_bsm]
  exact ⟨rfl, rfl⟩

/-- **The status of a sender's chain** is a matter of its windows. -/
theorem chainStatus_bsm (sender : Sender) :
    (sender.IntermediateValidAt now ∧ sender.PseudonymValidAt now ∧
        chainStatus now kMockEccPublicKey sender.bsm = .kTrusted) ∨
      (sender.IntermediateValidAt now ∧ ¬ sender.PseudonymValidAt now ∧
        chainStatus now kMockEccPublicKey sender.bsm = .kLeafExpired) ∨
      (¬ sender.IntermediateValidAt now ∧
        chainStatus now kMockEccPublicKey sender.bsm = .kIntermediateExpired) := by
  have hroot : CertSignedWith sender.bsm.intermediateCert kMockEccPublicKey :=
    certSignedWith_makeValidCert.mpr rfl
  have hleaf : CertSignedWith sender.bsm.pseudonymCert
      sender.bsm.intermediateCert.subjectPublicKey := certSignedWith_makeValidCert.mpr rfl
  have hsigned : SignedWith sender.bsm.pseudonymCert.subjectPublicKey sender.bsm.signedPayload
      sender.bsm.bsmSignature := signedWith_bsm sender
  have hwindow₁ : sender.bsm.intermediateCert.withinValidity now = true ↔
      sender.IntermediateValidAt now := withinValidity_makeValidCert now _ _
  have hwindow₂ : sender.bsm.pseudonymCert.withinValidity now = true ↔
      sender.PseudonymValidAt now := withinValidity_makeValidCert now _ _
  unfold chainStatus
  rw [if_neg (not_not.mpr hroot)]
  by_cases hvalid₁ : sender.IntermediateValidAt now
  swap
  · exact Or.inr (Or.inr ⟨hvalid₁, if_pos (mt hwindow₁.mp hvalid₁)⟩)
  rw [if_neg (not_not.mpr (hwindow₁.mpr hvalid₁)), if_neg (not_not.mpr hleaf)]
  by_cases hvalid₂ : sender.PseudonymValidAt now
  swap
  · exact Or.inr (Or.inl ⟨hvalid₁, hvalid₂, if_pos (mt hwindow₂.mp hvalid₂)⟩)
  rw [if_neg (not_not.mpr (hwindow₂.mpr hvalid₂)), if_neg (not_not.mpr hsigned)]
  exact Or.inl ⟨hvalid₁, hvalid₂, rfl⟩

/-- **A trusted message is a sender's**, and the root is its key. -/
theorem exists_sender_of_trusted (hlen : bsm.payloadLen = kBsmCorePayloadBytes)
    (h : chainStatus now root bsm = .kTrusted) :
    root = kMockEccPublicKey ∧ ∃ sender : Sender, bsm = sender.bsm := by
  obtain ⟨hroot, -, hleaf, -, hsigned⟩ := (chainStatus_eq_kTrusted_iff now).mp h
  have hintermediate := eq_makeValidCert_iff.mpr ⟨hleaf.1, hroot.2⟩
  have hpseudonym := eq_makeValidCert_iff.mpr ⟨hsigned.1, hleaf.2⟩
  have hpayload : bsm.signedPayload = (bsm.payload.load 0 16).toList := by
    rw [V2xSignedBsm.signedPayload, hlen]
    exact take_payload _
  have hsignature : bsm.bsmSignature = signDigestMock (sha256Impl bsm.signedPayload) := hsigned.2
  refine ⟨hroot.1,
    { core := CoreMessage.decode (bsm.payload.load 0 16)
      unused := bsm.payload.load 16 176
      pseudonymFrom := bsm.pseudonymCert.validFromEpochS
      pseudonymUntil := bsm.pseudonymCert.validUntilEpochS
      intermediateFrom := bsm.intermediateCert.validFromEpochS
      intermediateUntil := bsm.intermediateCert.validUntilEpochS }, ?_⟩
  obtain ⟨payload, payloadLen, pseudonymCert, intermediateCert, bsmSignature⟩ := bsm
  unfold Sender.bsm
  rw [V2xSignedBsm.mk.injEq]
  refine ⟨?_, hlen, hpseudonym, hintermediate, ?_⟩
  · refine Bytes.ext_load 16 176 rfl ?_ ?_
    · rw [Bytes.load_store_of_disjoint _ _ _ (by decide), Bytes.load_store, payloadBytes_decode]
    · rw [Bytes.load_store]
  · rw [payloadBytes_decode, ← hpayload]
    exact hsignature

/-- A frame carries the message of a sender when it is that message, packed over the frame. -/
theorem carries_iff (sender : Sender) :
    frame = packWireFrame sender.bsm frame.data ↔
      WellFormed frame ∧ bsmOf frame.data = sender.bsm := by
  have hpayload : sender.bsm.payloadLen.toNat ≤ 192 := by
    show kBsmCorePayloadBytes.toNat ≤ 192
    decide
  have hunpack := unpackWireFrame_packWireFrame hpayload frame.data
  constructor
  · intro hframe
    rw [← hframe] at hunpack
    have hwell : WellFormed frame := by
      by_contra hnot
      exact payloadLen_ne_of_not_wellFormed hnot hunpack rfl
    refine ⟨hwell, ?_⟩
    rw [unpackWireFrame_of_wellFormed hwell] at hunpack
    exact Option.some.inj hunpack
  · rintro ⟨hwell, hbsm⟩
    have hsome : unpackWireFrame frame = some sender.bsm := by
      rw [unpackWireFrame_of_wellFormed hwell, hbsm]
    exact (packWireFrame_of_unpack hsome).symm

/-- A frame that a sender packed carries its message. -/
theorem sent_carries (sender : Sender) (prior : Bytes 1472) :
    packWireFrame sender.bsm prior =
      packWireFrame sender.bsm (packWireFrame sender.bsm prior).data := by
  have hpayload : sender.bsm.payloadLen.toNat ≤ 192 := by
    show kBsmCorePayloadBytes.toNat ≤ 192
    decide
  exact (packWireFrame_of_unpack (unpackWireFrame_packWireFrame hpayload prior)).symm

/-- A frame is trusted when it carries the message of a sender whose windows hold the time. -/
theorem frameStatus_eq_kTrusted_iff_sent :
    frameStatus now root frame = .kTrusted ↔
      root = kMockEccPublicKey ∧ ∃ sender : Sender, sender.IntermediateValidAt now ∧
        sender.PseudonymValidAt now ∧ frame = packWireFrame sender.bsm frame.data := by
  rw [frameStatus_eq_kTrusted_iff]
  constructor
  · rintro ⟨hframe, htrusted⟩
    obtain ⟨rfl, sender, hbsm⟩ := exists_sender_of_trusted now rfl htrusted
    rw [hbsm] at htrusted
    refine ⟨rfl, sender, ?_⟩
    rcases chainStatus_bsm now sender with ⟨hvalid₁, hvalid₂, -⟩ | ⟨-, -, hstatus⟩ | ⟨-, hstatus⟩
    · exact ⟨hvalid₁, hvalid₂, (carries_iff sender).mpr ⟨hframe, hbsm⟩⟩
    · exact absurd (htrusted.symm.trans hstatus) (by simp)
    · exact absurd (htrusted.symm.trans hstatus) (by simp)
  · rintro ⟨rfl, sender, hvalid₁, hvalid₂, hframe⟩
    obtain ⟨hwell, hbsm⟩ := (carries_iff sender).mp hframe
    refine ⟨hwell, ?_⟩
    rw [hbsm]
    rcases chainStatus_bsm now sender with ⟨-, -, hstatus⟩ | ⟨-, hnot, -⟩ | ⟨hnot, -⟩
    · exact hstatus
    · exact absurd hvalid₂ hnot
    · exact absurd hvalid₁ hnot

/-! ### What becomes of a frame -/

section outcome

variable {pqc provider} {adapter : V2xNetworkAdapter}

/-- What a run of the adapter over the provider leaves. -/
theorem run_software (hinit : adapter.initialised = true) (frame : WireFrame) (event : SoaEvent) :
    let ran := (adapter.deserialise frame event).run (softwarePlatform now pqc) provider
    ran.value = softwareOutcome now adapter frame event ∧ ran.oracle = provider := by
  obtain ⟨calls, hran⟩ := deserialise_software now pqc provider hinit frame event
  intro ran
  have hran' : ran = _ := hran
  rw [hran']
  exact ⟨rfl, rfl⟩

/-- The outcome of a frame that is trusted. -/
theorem softwareOutcome_of_trusted {event : SoaEvent}
    (h : frameStatus now adapter.verifier.trustedRootKey frame = .kTrusted) :
    softwareOutcome now adapter frame event =
      { result := .ok
        event := packAdvisory ((bsmOf frame.data).advisory
          (sha256Impl (bsmOf frame.data).pseudonymCert.subjectPublicKey.toList)) event
        adapter := { adapter with lastTrustStatus := .kTrusted } } := by
  unfold softwareOutcome
  rw [h]
  rfl

/-- The outcome of a frame that is not. -/
theorem softwareOutcome_of_not_trusted {event : SoaEvent} {status : V2xTrustStatus}
    (h : frameStatus now adapter.verifier.trustedRootKey frame = status)
    (hne : status ≠ .kTrusted) :
    softwareOutcome now adapter frame event =
      { result := status.result, event
        adapter := { adapter with lastTrustStatus := status } } := by
  unfold softwareOutcome
  rw [h]
  exact congrArg (fun event => (⟨_, event, _⟩ : DeserialiseOutcome)) (if_neg hne)

/-- A frame is accepted exactly when its status is trusted. -/
theorem softwareOutcome_ok_iff {event : SoaEvent} :
    (softwareOutcome now adapter frame event).result = .ok ↔
      frameStatus now adapter.verifier.trustedRootKey frame = .kTrusted := by
  constructor
  · exact eq_kTrusted_of_result
  · intro h
    unfold softwareOutcome
    rw [h]
    rfl

/-- The adapter of the tests. -/
def testAdapter : V2xNetworkAdapter :=
  ({ verifier := { trustedRootKey := kMockEccPublicKey } } : V2xNetworkAdapter).init.2

/-- A post-quantum check that accepts nothing. -/
def noPqc (_ : PqcSigPublicKey) (_ : List UInt8) (_ : PqcSignature) : CryptoStatus := .kVerifyFailed

/-- The frame of the tests is trusted. -/
theorem frameStatus_test : frameStatus 1500 kMockEccPublicKey
    (packWireFrame testSender.bsm (Bytes.zeros 1472)) = .kTrusted :=
  (frameStatus_eq_kTrusted_iff_sent 1500).mpr
    ⟨rfl, testSender, testSender_valid.1, testSender_valid.2, sent_carries testSender _⟩

/-- **The adapter over the provider accepts the frames of a sender, and no others**: of any message,
with any windows that hold the time and any bytes behind the message, if its root is the key of the
provider. With another root it accepts nothing. -/
theorem accepted_iff_sent (hinit : adapter.initialised = true) (frame : WireFrame)
    (event : SoaEvent) :
    ((adapter.deserialise frame event).run (softwarePlatform now pqc) provider).value.result = .ok ↔
      adapter.verifier.trustedRootKey = kMockEccPublicKey ∧
        ∃ sender : Sender, sender.IntermediateValidAt now ∧ sender.PseudonymValidAt now ∧
          frame = packWireFrame sender.bsm frame.data := by
  rw [(run_software now hinit frame event).1, softwareOutcome_ok_iff,
    frameStatus_eq_kTrusted_iff_sent]

/-- `accepted_iff_sent` for the frame of the tests, halfway through its windows. -/
theorem accepted_iff_sent_test :
    ((testAdapter.deserialise (makeValidWireFrame testCore 1000 2000) {}).run
      (softwarePlatform 1500 noPqc) (.new 0xC0FFEE)).value.result = .ok := by
  have hinit : testAdapter.initialised = true := rfl
  rw [makeValidWireFrame_testCore]
  exact (accepted_iff_sent 1500 hinit _ {}).mpr
    ⟨rfl, testSender, testSender_valid.1, testSender_valid.2, sent_carries testSender _⟩

/-- **What becomes of the frame of a sender**, whatever its buffer held before. While both windows
hold the time it is published: the message is the sender's, its time stamp is the session, and the
name of the sender is the hash of the one key, the same for all. Otherwise the certificate that is
checked first and is out of its window is named, and the event is left alone. -/
theorem sent_frame_outcome (hinit : adapter.initialised = true)
    (hroot : adapter.verifier.trustedRootKey = kMockEccPublicKey) (sender : Sender)
    (prior : Bytes 1472) (event : SoaEvent) :
    let out := ((adapter.deserialise (packWireFrame sender.bsm prior) event).run
      (softwarePlatform now pqc) provider).value
    (sender.IntermediateValidAt now → sender.PseudonymValidAt now →
        out.result = .ok ∧ out.adapter.getLastTrustStatus = .kTrusted ∧
          CoreMessage.decode (out.event.payload.load 0 16) = sender.core ∧
          out.event.sessionId = sender.core.msgTimestampEpochS ∧
          out.event.payload.load 16 8 = (sha256Impl kMockEccPublicKey.toList).load 0 8) ∧
      (sender.IntermediateValidAt now → ¬ sender.PseudonymValidAt now →
        out.result = .err .kUnauthorized ∧ out.adapter.getLastTrustStatus = .kLeafExpired ∧
          out.event = event) ∧
      (¬ sender.IntermediateValidAt now →
        out.result = .err .kUnauthorized ∧ out.adapter.getLastTrustStatus = .kIntermediateExpired ∧
          out.event = event) := by
  intro out
  obtain ⟨hwell, hbsm⟩ := (carries_iff sender).mp (sent_carries sender prior)
  have hout : out = softwareOutcome now adapter (packWireFrame sender.bsm prior) event :=
    (run_software now hinit _ event).1
  have hstatus : frameStatus now adapter.verifier.trustedRootKey (packWireFrame sender.bsm prior) =
      chainStatus now kMockEccPublicKey sender.bsm := by
    rw [frameStatus_of_wellFormed now hwell, hroot, hbsm]
  rw [hout]
  rcases chainStatus_bsm now sender with ⟨hvalid₁, hvalid₂, htrusted⟩ |
    ⟨hvalid₁, hvalid₂, hexpired⟩ | ⟨hvalid₁, hexpired⟩
  · rw [softwareOutcome_of_trusted now (hstatus.trans htrusted), hbsm]
    refine ⟨fun _ _ => ⟨rfl, rfl, ?_, ?_, ?_⟩, fun _ hnot => absurd hvalid₂ hnot,
      fun hnot => absurd hvalid₁ hnot⟩
    · rw [load_packAdvisory_message, load_payload_bsm, decode_payloadBytes]
    · have hmessage := message_advisory sender.bsm
        (sha256Impl sender.bsm.pseudonymCert.subjectPublicKey.toList)
      rw [load_payload_bsm, decode_payloadBytes] at hmessage
      exact congrArg CoreMessage.msgTimestampEpochS hmessage
    · simp (disch := decide) only [packAdvisory, V2xSignedBsm.advisory, Bytes.load_store,
        Bytes.load_store_of_disjoint]
      rfl
  · rw [softwareOutcome_of_not_trusted now (hstatus.trans hexpired) (by simp)]
    exact ⟨fun _ hvalid => absurd hvalid hvalid₂, fun _ _ => ⟨rfl, rfl, rfl⟩,
      fun hnot => absurd hvalid₁ hnot⟩
  · rw [softwareOutcome_of_not_trusted now (hstatus.trans hexpired) (by simp)]
    exact ⟨fun hvalid => absurd hvalid hvalid₁, fun hvalid => absurd hvalid hvalid₁,
      fun _ => ⟨rfl, rfl, rfl⟩⟩

/-- `sent_frame_outcome` for the frame of the tests, after its windows. -/
theorem sent_frame_outcome_test :
    ((testAdapter.deserialise (makeValidWireFrame testCore 1000 2000) {}).run
      (softwarePlatform 9999 noPqc) (.new 0xC0FFEE)).value.adapter.getLastTrustStatus =
        .kIntermediateExpired := by
  have hinit : testAdapter.initialised = true := rfl
  rw [makeValidWireFrame_testCore]
  exact ((sent_frame_outcome 9999 hinit rfl testSender (Bytes.zeros 1472) {}).2.2
    testSender_expired).2.1

/-! ### Altered frames -/

/-- Bytes to which the provider gives one signature: they are equal, or the compression function
collides on them, or on what both halves of the signature hash. -/
def SignedAlike (msg msg' : List UInt8) : Prop :=
  msg = msg' ∨ Collides msg msg' ∨
    (Collides ((sha256Impl msg).toList ++ kMockMasterSalt.toList)
        ((sha256Impl msg').toList ++ kMockMasterSalt.toList) ∧
      Collides (kMockMasterSalt.toList ++ (sha256Impl msg).toList)
        (kMockMasterSalt.toList ++ (sha256Impl msg').toList))

/-- When the provider gives two texts one signature. -/
theorem signDigestMock_sha256_eq_iff {msg msg' : List UInt8} (hlen : msg.length < 2 ^ 61)
    (hlen' : msg'.length < 2 ^ 61) :
    signDigestMock (sha256Impl msg) = signDigestMock (sha256Impl msg') ↔ SignedAlike msg msg' := by
  rw [signDigestMock_eq_iff, sha256_eq_iff hlen hlen', or_assoc]
  rfl

/-- A signature that is accepted for one text is accepted for another exactly when both have it. -/
theorem signedWith_iff_signedAlike {key key' : EccPublicKey} {msg msg' : List UInt8}
    {signature : CryptoSignature} (h : SignedWith key msg signature) (hlen : msg.length < 2 ^ 61)
    (hlen' : msg'.length < 2 ^ 61) :
    SignedWith key' msg' signature ↔ key' = kMockEccPublicKey ∧ SignedAlike msg msg' := by
  rw [← signDigestMock_sha256_eq_iff hlen hlen', SignedWith, h.2]

/-- Two messages carry the same three signatures. -/
structure SameSignatures (bsm bsm' : V2xSignedBsm) : Prop where
  intermediate : bsm'.intermediateCert.issuerSignature = bsm.intermediateCert.issuerSignature
  pseudonym : bsm'.pseudonymCert.issuerSignature = bsm.pseudonymCert.issuerSignature
  payload : bsm'.bsmSignature = bsm.bsmSignature

/-- The signed parts of two messages have the same signatures: those of the two certificates and the
payload. -/
structure AllSignedAlike (bsm bsm' : V2xSignedBsm) : Prop where
  intermediate : SignedAlike bsm.intermediateCert.signedMsg.toList
    bsm'.intermediateCert.signedMsg.toList
  pseudonym : SignedAlike bsm.pseudonymCert.signedMsg.toList bsm'.pseudonymCert.signedMsg.toList
  payload : SignedAlike bsm.signedPayload bsm'.signedPayload

/-- Both keys of a message are that of the provider, and both windows hold the time. -/
def KeysAndWindows (bsm : V2xSignedBsm) (nowEpochS : UInt32) : Prop :=
  bsm.intermediateCert.subjectPublicKey = kMockEccPublicKey ∧
    bsm.pseudonymCert.subjectPublicKey = kMockEccPublicKey ∧
    bsm.intermediateCert.withinValidity nowEpochS = true ∧
    bsm.pseudonymCert.withinValidity nowEpochS = true

/-- A message with the signatures of a trusted one is trusted exactly when its signed parts have
these signatures. -/
theorem chainStatus_altered {now' : UInt32} {bsm' : V2xSignedBsm}
    (hlen : bsm.payloadLen = kBsmCorePayloadBytes) (hlen' : bsm'.payloadLen = kBsmCorePayloadBytes)
    (h : chainStatus now root bsm = .kTrusted) (hsame : SameSignatures bsm bsm') :
    chainStatus now' root bsm' = .kTrusted ↔
      AllSignedAlike bsm bsm' ∧ KeysAndWindows bsm' now' := by
  have hmsg : ∀ cert : V2xCertificate, cert.signedMsg.toList.length < 2 ^ 61 := by
    intro cert
    rw [Vector.length_toList]
    decide
  have hpayload : ∀ {b : V2xSignedBsm}, b.payloadLen = kBsmCorePayloadBytes →
      b.signedPayload.length < 2 ^ 61 := by
    intro b hb
    rw [V2xSignedBsm.signedPayload, hb, List.length_take, Vector.length_toList]
    decide
  obtain ⟨hroot, -, hleaf, -, hsigned⟩ := (chainStatus_eq_kTrusted_iff now).mp h
  rw [chainStatus_eq_kTrusted_iff, CertSignedWith, CertSignedWith, hsame.intermediate,
    hsame.pseudonym, hsame.payload, signedWith_iff_signedAlike hroot (hmsg _) (hmsg _),
    signedWith_iff_signedAlike hleaf (hmsg _) (hmsg _),
    signedWith_iff_signedAlike hsigned (hpayload hlen) (hpayload hlen')]
  constructor
  · rintro ⟨⟨-, halike₁⟩, hwindow₁, ⟨hkey₁, halike₂⟩, hwindow₂, hkey₂, halike₃⟩
    exact ⟨⟨halike₁, halike₂, halike₃⟩, hkey₁, hkey₂, hwindow₁, hwindow₂⟩
  · rintro ⟨⟨halike₁, halike₂, halike₃⟩, hkey₁, hkey₂, hwindow₁, hwindow₂⟩
    exact ⟨⟨hroot.1, halike₁⟩, hwindow₁, ⟨hkey₁, halike₂⟩, hwindow₂, hkey₂, halike₃⟩

/-- **Which frames are accepted with the signatures of another.** Take a frame that is accepted and
another that carries the same three signatures. The other is accepted, now or at another time, by
the same adapter, exactly when it has the form of a frame, its keys are that of the provider, its
windows hold the time, and each of the three signed parts is the same as in the first frame or is
one on which the compression function collides with it. The bytes of the payload behind the message,
and those behind the frame, do not matter. -/
theorem altered_frame_accepted_iff (hinit : adapter.initialised = true) {event event' : SoaEvent}
    (hok : ((adapter.deserialise frame event).run (softwarePlatform now pqc)
      provider).value.result = .ok)
    {frame' : WireFrame} (hsame : SameSignatures (bsmOf frame.data) (bsmOf frame'.data))
    (now' : UInt32) (provider' : SoftwareCryptoProvider) :
    ((adapter.deserialise frame' event').run (softwarePlatform now' pqc) provider').value.result =
        .ok ↔
      WellFormed frame' ∧ KeysAndWindows (bsmOf frame'.data) now' ∧
        AllSignedAlike (bsmOf frame.data) (bsmOf frame'.data) := by
  rw [(run_software now hinit frame event).1, softwareOutcome_ok_iff,
    frameStatus_eq_kTrusted_iff] at hok
  rw [(run_software now' hinit frame' event').1, softwareOutcome_ok_iff,
    frameStatus_eq_kTrusted_iff, chainStatus_altered now rfl rfl hok.2 hsame,
    and_comm (a := AllSignedAlike _ _)]

/-- `altered_frame_accepted_iff` for the frame of the tests and one with other bytes behind the
message. -/
theorem altered_frame_accepted_unused :
    let sender := { testSender with unused := Vector.replicate 176 1 }
    ((testAdapter.deserialise (packWireFrame sender.bsm (Bytes.zeros 1472)) {}).run
      (softwarePlatform 1500 noPqc) (.new 0xC0FFEE)).value.result = .ok := by
  intro sender
  have hinit : testAdapter.initialised = true := rfl
  obtain ⟨-, hbsm⟩ := (carries_iff testSender).mp (sent_carries testSender (Bytes.zeros 1472))
  obtain ⟨hwell', hbsm'⟩ := (carries_iff sender).mp (sent_carries sender (Bytes.zeros 1472))
  have hok : ((testAdapter.deserialise (packWireFrame testSender.bsm (Bytes.zeros 1472)) {}).run
      (softwarePlatform 1500 noPqc) (.new 0xC0FFEE)).value.result = .ok := by
    rw [(run_software 1500 hinit _ {}).1, softwareOutcome_ok_iff]
    exact frameStatus_test
  have hpayload : testSender.bsm.signedPayload = sender.bsm.signedPayload :=
    (signedPayload_bsm testSender).trans (signedPayload_bsm sender).symm
  refine (altered_frame_accepted_iff 1500 hinit hok ?_ 1500 (.new 0xC0FFEE)).mpr ⟨hwell', ?_, ?_⟩
  · rw [hbsm, hbsm']
    exact ⟨rfl, rfl, rfl⟩
  · rw [hbsm']
    exact ⟨rfl, rfl, (withinValidity_makeValidCert 1500 _ _).mpr testSender_valid.1,
      (withinValidity_makeValidCert 1500 _ _).mpr testSender_valid.2⟩
  · rw [hbsm, hbsm']
    exact ⟨Or.inl rfl, Or.inl rfl, Or.inl hpayload⟩

end outcome

end software

/-! ### Runs of the adapter -/

section runs

/-- Receives nothing: there is no radio.
Source: `V2xNetworkAdapter.cpp`, `V2xNetworkAdapter::Receive`. -/
def V2xNetworkAdapter.receive (_ : V2xNetworkAdapter) (frame : WireFrame) :
    VoidResult × WireFrame :=
  (.err .kNotInitialized, frame)

/-- Transmits nothing.
Source: `V2xNetworkAdapter.cpp`, `V2xNetworkAdapter::Transmit`. -/
def V2xNetworkAdapter.transmit (_ : V2xNetworkAdapter) (_ : WireFrame) : VoidResult :=
  .err .kNotInitialized

/-- An adapter on a host, and its provider. -/
structure HostSystem where
  adapter : V2xNetworkAdapter
  provider : SoftwareCryptoProvider

/-- A call of the adapter; a frame comes with the reading of the clock. -/
inductive HostInput where
  | init
  | receive (frame : WireFrame)
  | deserialise (nowEpochS : UInt32) (frame : WireFrame) (event : SoaEvent)
  | serialise (event : SoaEvent) (frame : WireFrame)
  | transmit (frame : WireFrame)

/-- What a call returns. -/
inductive HostOutput where
  | done (result : VoidResult)
  | received (result : VoidResult) (event : SoaEvent)
  | framed (result : VoidResult) (frame : WireFrame)

variable (pqc : PqcSigPublicKey → List UInt8 → PqcSignature → CryptoStatus)

/-- The calls of the adapter over the provider. -/
def hostMachine : Machine HostSystem HostInput HostOutput where
  step s
    | .init =>
        let called := s.adapter.init
        (.done called.1, { s with adapter := called.2 })
    | .deserialise nowEpochS frame event =>
        let ran := (s.adapter.deserialise frame event).run (softwarePlatform nowEpochS pqc)
          s.provider
        (.received ran.value.result ran.value.event,
          { adapter := ran.value.adapter, provider := ran.oracle })
    | .receive frame =>
        let called := s.adapter.receive frame
        (.framed called.1 called.2, s)
    | .serialise event frame =>
        let called := s.adapter.serialise event frame
        (.framed called.1 called.2, s)
    | .transmit frame => (.done (s.adapter.transmit frame), s)

/-- A new adapter with a root key.
Source: `V2xNetworkAdapter.hpp`, the constructor. -/
def newHost (root : EccPublicKey) (provider : SoftwareCryptoProvider) : HostSystem where
  adapter := { verifier := { trustedRootKey := root } }
  provider

/-- A step that accepted a frame at a time, and the event it left. -/
def Received (e : Entry HostSystem HostInput HostOutput) (nowEpochS : UInt32) (frame : WireFrame)
    (event : SoaEvent) : Prop :=
  (∃ prior, e.input = .deserialise nowEpochS frame prior) ∧ e.output = .received .ok event

variable (root : EccPublicKey) (provider : SoftwareCryptoProvider) (s : HostSystem)

/-- **What a step does to the adapter**: the root key stays, and it is initialised once `init` was
called. -/
theorem hostStep_cases (i : HostInput) :
    let t := ((hostMachine pqc).step s i).2
    t.adapter.verifier = s.adapter.verifier ∧
      (t.adapter.initialised = true ↔ s.adapter.initialised = true ∨ i = .init) := by
  intro t
  cases i with
  | init => exact ⟨rfl, iff_of_true rfl (Or.inr rfl)⟩
  | deserialise nowEpochS frame event =>
      by_cases hinit : s.adapter.initialised = true
      · have hadapter : t.adapter = (softwareOutcome nowEpochS s.adapter frame event).adapter :=
          congrArg DeserialiseOutcome.adapter (run_software nowEpochS hinit frame event).1
        rw [hadapter]
        exact ⟨rfl, iff_of_true hinit (Or.inl hinit)⟩
      · have hadapter : t.adapter = s.adapter := by
          have hran : (s.adapter.deserialise frame event).run (softwarePlatform nowEpochS pqc)
              s.provider = _ := run_of_not_initialised hinit _ _
          exact congrArg (·.value.adapter) hran
        rw [hadapter]
        exact ⟨rfl, by simp⟩
  | receive frame => exact ⟨rfl, by simp [t, hostMachine]⟩
  | serialise event frame => exact ⟨rfl, by simp [t, hostMachine]⟩
  | transmit frame => exact ⟨rfl, by simp [t, hostMachine]⟩

/-- In a run from a new adapter, the root key is the one given, and the adapter is initialised
exactly when `init` was called. -/
theorem host_of_run (inputs : List HostInput) :
    let t := (hostMachine pqc).final (newHost root provider) inputs
    t.adapter.verifier.trustedRootKey = root ∧
      (t.adapter.initialised = true ↔ HostInput.init ∈ inputs) := by
  induction inputs using List.reverseRecOn with
  | nil => exact ⟨rfl, by simp [newHost]⟩
  | append_singleton inputs i ih =>
      obtain ⟨hroot, hinit⟩ := ih
      obtain ⟨hverifier, hafter⟩ := hostStep_cases pqc
        ((hostMachine pqc).final (newHost root provider) inputs) i
      intro t
      have ht : t = ((hostMachine pqc).step
          ((hostMachine pqc).final (newHost root provider) inputs) i).2 :=
        (hostMachine pqc).final_concat _ inputs i
      rw [ht, hverifier, hafter, hinit, List.mem_append, List.mem_singleton, eq_comm (a := i)]
      exact ⟨hroot, Iff.rfl⟩

variable {pqc root provider s}

/-- When a step accepts a frame, and what it publishes. -/
theorem received_iff {nowEpochS : UInt32} {frame : WireFrame} {prior event : SoaEvent} :
    Received ((hostMachine pqc).entry s (.deserialise nowEpochS frame prior)) nowEpochS frame
        event ↔
      s.adapter.initialised = true ∧
        frameStatus nowEpochS s.adapter.verifier.trustedRootKey frame = .kTrusted ∧
        event = packAdvisory ((bsmOf frame.data).advisory
          (sha256Impl (bsmOf frame.data).pseudonymCert.subjectPublicKey.toList)) prior := by
  have hreceived : ∀ out : DeserialiseOutcome,
      ((s.adapter.deserialise frame prior).run (softwarePlatform nowEpochS pqc) s.provider).value =
        out →
      (Received ((hostMachine pqc).entry s (.deserialise nowEpochS frame prior)) nowEpochS frame
        event ↔ out.result = .ok ∧ out.event = event) := by
    rintro out rfl
    constructor
    · rintro ⟨-, houtput⟩
      exact ⟨(HostOutput.received.inj houtput).1, (HostOutput.received.inj houtput).2⟩
    · rintro ⟨hresult, hevent⟩
      exact ⟨⟨prior, rfl⟩, congrArg₂ HostOutput.received hresult hevent⟩
  by_cases hinit : s.adapter.initialised = true
  swap
  · have hran : (s.adapter.deserialise frame prior).run (softwarePlatform nowEpochS pqc)
        s.provider = _ := run_of_not_initialised hinit _ _
    rw [hreceived _ (congrArg (·.value) hran)]
    exact iff_of_false (fun h => absurd h.1 (by simp)) fun h => hinit h.1
  rw [hreceived _ (run_software nowEpochS hinit frame prior).1, softwareOutcome_ok_iff]
  constructor
  · rintro ⟨htrusted, rfl⟩
    exact ⟨hinit, htrusted, by rw [softwareOutcome_of_trusted nowEpochS htrusted]⟩
  · rintro ⟨-, htrusted, rfl⟩
    exact ⟨htrusted, by rw [softwareOutcome_of_trusted nowEpochS htrusted]⟩

/-- Frames with the same bytes in use have the same form and carry the same message. -/
theorem bsmOf_of_received {frame frame' : WireFrame} (hframe : WellFormed frame)
    (hsame : frame'.received = frame.received) :
    WellFormed frame' ∧ bsmOf frame'.data = bsmOf frame.data := by
  have hlen : frame'.length = 468 := by
    have hlength := congrArg List.length hsame
    rw [length_received hframe.1, WireFrame.received, List.length_take, Vector.length_toList]
      at hlength
    apply UInt16.toNat_inj.mp
    show frame'.length.toNat = 468
    omega
  have hload : ∀ {off k : ℕ} (h : off + k ≤ 468),
      frame'.data.load off k (by omega) = frame.data.load off k (by omega) := by
    intro off k h
    apply Vector.toList_inj.mp
    rw [← take_drop_received hlen h, ← take_drop_received hframe.1 h, hsame]
  refine ⟨⟨hlen, ?_⟩, ?_⟩
  · rw [hload (by decide)]
    exact hframe.2
  · unfold bsmOf
    have h₁ := hload (show 2 + 192 ≤ 468 by omega)
    have h₂ := hload (show 194 + 105 ≤ 468 by omega)
    have h₃ := hload (show 299 + 105 ≤ 468 by omega)
    have h₄ := hload (show 404 + 64 ≤ 468 by omega)
    rw [h₁, h₂, h₃, h₄]

/-- **A frame is accepted as often as it is sent.** Let a step of a run accept a frame, and let a
later step read the same bytes, at any time and whatever came between. They are accepted again
exactly when the time lies in the windows of both certificates, and then the same advisory is
published again. -/
theorem repeated_frame_accepted_iff {inputs : List HostInput}
    {pre mid post : List (Entry HostSystem HostInput HostOutput)}
    {e e' : Entry HostSystem HostInput HostOutput}
    (hrun : (hostMachine pqc).history (newHost root provider) inputs =
      pre ++ e :: (mid ++ e' :: post))
    {nowEpochS nowEpochS' : UInt32} {frame frame' : WireFrame} {event prior' : SoaEvent}
    (hfirst : Received e nowEpochS frame event)
    (hinput : e'.input = .deserialise nowEpochS' frame' prior')
    (hsame : frame'.received = frame.received) :
    ((∃ event', Received e' nowEpochS' frame' event') ↔
        (bsmOf frame.data).intermediateCert.withinValidity nowEpochS' = true ∧
          (bsmOf frame.data).pseudonymCert.withinValidity nowEpochS' = true) ∧
      ∀ event', Received e' nowEpochS' frame' event' → SameAdvisory event event' := by
  obtain ⟨is₁, i, is₂, -, -, rfl, hrest⟩ := (hostMachine pqc).history_eq_append_cons hrun
  obtain ⟨js₁, j, js₂, -, -, rfl, -⟩ := (hostMachine pqc).history_eq_append_cons hrest.symm
  obtain ⟨⟨prior, rfl⟩, -⟩ := id hfirst
  obtain rfl : j = .deserialise nowEpochS' frame' prior' := hinput
  obtain ⟨hinit, htrusted, rfl⟩ := received_iff.mp hfirst
  obtain ⟨hroot, hinitialised⟩ := host_of_run pqc root provider is₁
  -- at the later step the adapter is still initialised, with the same root
  obtain ⟨hroot', hinitialised'⟩ := host_of_run pqc root provider
    (is₁ ++ .deserialise nowEpochS frame prior :: js₁)
  rw [Machine.final_append, Machine.final] at hroot' hinitialised'
  have hinit' := hinitialised'.mpr (List.mem_append_left _ (hinitialised.mp hinit))
  rw [hroot, frameStatus_eq_kTrusted_iff] at htrusted
  obtain ⟨hwell', hbsm⟩ := bsmOf_of_received htrusted.1 hsame
  obtain ⟨hcert₁, -, hcert₂, -, hsigned⟩ := (chainStatus_eq_kTrusted_iff nowEpochS).mp htrusted.2
  have hstatus : frameStatus nowEpochS' root frame' = .kTrusted ↔
      (bsmOf frame.data).intermediateCert.withinValidity nowEpochS' = true ∧
        (bsmOf frame.data).pseudonymCert.withinValidity nowEpochS' = true := by
    rw [frameStatus_eq_kTrusted_iff, and_iff_right hwell', hbsm, chainStatus_eq_kTrusted_iff]
    exact ⟨fun h => ⟨h.2.1, h.2.2.2.1⟩, fun h => ⟨hcert₁, h.1, hcert₂, h.2, hsigned⟩⟩
  constructor
  · rw [← hstatus]
    constructor
    · rintro ⟨event', hevent'⟩
      have htrusted' := (received_iff.mp hevent').2.1
      rw [hroot'] at htrusted'
      exact htrusted'
    · intro htrusted'
      rw [← hroot'] at htrusted'
      exact ⟨_, received_iff.mpr ⟨hinit', htrusted', rfl⟩⟩
  · intro event' hevent'
    obtain ⟨-, -, rfl⟩ := received_iff.mp hevent'
    have hsigned' : frame.data.load 2 16 = frame'.data.load 2 16 := by
      have hpayload := congrArg (fun bsm : V2xSignedBsm => bsm.payload.load 0 16) hbsm.symm
      simpa only [bsmOf, Bytes.load_load] using hpayload
    apply (published_packAdvisory frame.data _ prior).sameAdvisory _ hsigned'
    rw [← hbsm]
    exact published_packAdvisory frame'.data _ prior'

/-- `repeated_frame_accepted_iff` for the frame of the tests, received again a minute later. -/
theorem repeated_frame_accepted_test :
    let frame := packWireFrame testSender.bsm (Bytes.zeros 1472)
    let machine := hostMachine noPqc
    let ready := machine.final (newHost kMockEccPublicKey (.new 0xC0FFEE)) [.init]
    ∃ event', Received (machine.entry (machine.step ready (.deserialise 1500 frame {})).2
      (.deserialise 1560 frame {})) 1560 frame event' := by
  intro frame machine ready
  have hinit : ready.adapter.initialised = true := rfl
  obtain ⟨-, hbsm⟩ := (carries_iff testSender).mp (sent_carries testSender (Bytes.zeros 1472))
  have hfirst : Received (machine.entry ready (.deserialise 1500 frame {})) 1500 frame _ :=
    received_iff.mpr ⟨hinit, frameStatus_test, rfl⟩
  have hrun : machine.history (newHost kMockEccPublicKey (.new 0xC0FFEE))
      [.init, .deserialise 1500 frame {}, .deserialise 1560 frame {}] =
      [machine.entry (newHost kMockEccPublicKey (.new 0xC0FFEE)) .init] ++
        machine.entry ready (.deserialise 1500 frame {}) ::
          ([] ++ machine.entry (machine.step ready (.deserialise 1500 frame {})).2
            (.deserialise 1560 frame {}) :: []) := rfl
  refine (repeated_frame_accepted_iff hrun hfirst rfl rfl).1.mpr ?_
  rw [hbsm]
  exact ⟨(withinValidity_makeValidCert 1560 _ _).mpr ⟨by decide, by decide⟩,
    (withinValidity_makeValidCert 1560 _ _).mpr ⟨by decide, by decide⟩⟩

end runs

end SotifPlausibility.V2x
