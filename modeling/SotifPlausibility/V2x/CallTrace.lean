import SotifPlausibility.V2x.NetworkAdapter

/-!
# The calls of a frame

What the adapter asks of the crypto platform and the clock, read off the bytes of the frame.

* `frameStages` — the seven platform calls and nine conditions of a frame, by the offsets of its
  fields.
* `signedMsg_unpackCert` — the bytes an issuer's signature is checked over are the bytes received:
  unpacking a certificate and packing it again gives them back.
* `deserialiseStages_eq` — the stages the adapter goes through are those of the frame.
* `run_outcome`, `passes_of_ok` — what a run leaves, and what success takes.
* `deserialise_calls` — so a key of the frame is used only after it was authenticated, whatever the
  platform replies.
-/

namespace SotifPlausibility.V2x

open SotifPlausibility.Found SotifPlausibility.Soa SotifPlausibility.Zzta

/-! ### The fields of a frame -/

/-- A time lies in the half-open window of two little-endian words. -/
def InWindow (fromBytes untilBytes : Bytes 4) (nowEpochS : UInt32) : Prop :=
  Bytes.unpackU32 fromBytes ≤ nowEpochS ∧ nowEpochS < Bytes.unpackU32 untilBytes

/-- The signature of the payload lies within a frame. -/
theorem signature_within : 404 + 64 ≤ 1472 := by decide

/-- The calls and conditions of a frame, in order. The intermediate certificate lies at 299, the
pseudonym certificate at 194: a key (33), the window (4 and 4), the issuer's signature (64). The
payload proper lies at 2, its signature at 404. -/
def frameStages (root : EccPublicKey) (f : Bytes 1472) (nowEpochS : UInt32) (r : ChainReplies) :
    List (Stage PlatformCall V2xTrustStatus) :=
  [⟨some ⟨.computeSha256 (f.load 299 41).toList, r.intermediateHash⟩,
      r.intermediateHash.1 = .kOk, .kRootSignatureInvalid⟩,
    ⟨some ⟨.verifyEccSignature r.intermediateHash.2 (f.load 340 64) root, r.intermediateSignature⟩,
      r.intermediateSignature = .kOk, .kRootSignatureInvalid⟩,
    ⟨none, InWindow (f.load 332 4) (f.load 336 4) nowEpochS, .kIntermediateExpired⟩,
    ⟨some ⟨.computeSha256 (f.load 194 41).toList, r.pseudonymHash⟩,
      r.pseudonymHash.1 = .kOk, .kLeafSignatureInvalid⟩,
    ⟨some ⟨.verifyEccSignature r.pseudonymHash.2 (f.load 235 64) (f.load 299 33),
      r.pseudonymSignature⟩, r.pseudonymSignature = .kOk, .kLeafSignatureInvalid⟩,
    ⟨none, InWindow (f.load 227 4) (f.load 231 4) nowEpochS, .kLeafExpired⟩,
    ⟨some ⟨.computeSha256 (f.load 2 16).toList, r.payloadHash⟩,
      r.payloadHash.1 = .kOk, .kCryptoError⟩,
    ⟨some ⟨.verifyEccSignature r.payloadHash.2 (f.load 404 64 signature_within) (f.load 194 33),
      r.bsmSignature⟩,
      r.bsmSignature = .kOk, .kBsmSignatureInvalid⟩,
    ⟨some ⟨.computeSha256 (f.load 194 33).toList, r.keyHash⟩, r.keyHash.1 = .kOk, .kCryptoError⟩]

/-- The answers a frame can fail with. -/
theorem frameStages_reason {root : EccPublicKey} {f : Bytes 1472} {nowEpochS : UInt32}
    {r : ChainReplies} : ∀ st ∈ frameStages root f nowEpochS r,
      st.reason ≠ .kTrusted ∧ st.reason ≠ .kInvalidInput := by
  intro st hst
  simp only [frameStages, List.mem_cons, List.not_mem_nil, or_false] at hst
  rcases hst with rfl | rfl | rfl | rfl | rfl | rfl | rfl | rfl | rfl <;> exact ⟨by simp, by simp⟩

section layout

/-- **The signed bytes are the received bytes**: packing an unpacked certificate gives them back. -/
theorem signedMsg_unpackCert (bytes : Bytes 105) :
    (unpackCert bytes).signedMsg = bytes.load 0 41 := by
  refine Bytes.ext_load 33 8 rfl ?_ (Bytes.ext_load 4 4 rfl ?_ ?_)
  · rw [V2xCertificate.load_signedMsg_key, Bytes.load_load]
    rfl
  · rw [Bytes.load_load, Bytes.load_load, Bytes.load_load]
    exact ((unpackCert bytes).load_signedMsg_from).trans (Bytes.packU32_unpackU32 _)
  · rw [Bytes.load_load, Bytes.load_load, Bytes.load_load]
    exact ((unpackCert bytes).load_signedMsg_until).trans (Bytes.packU32_unpackU32 _)

/-- A certificate is valid when the time lies in its window. -/
theorem withinValidity_unpackCert (bytes : Bytes 105) (nowEpochS : UInt32) :
    ((unpackCert bytes).withinValidity nowEpochS = true) =
      InWindow (bytes.load 33 4) (bytes.load 37 4) nowEpochS := by
  unfold V2xCertificate.withinValidity InWindow unpackCert
  simp

/-- The hashed payload is the payload proper. -/
theorem take_payload (payload : Bytes 192) :
    payload.toList.take 16 = (payload.load 0 16).toList := by
  rw [Bytes.toList_load, List.drop_zero]

/-- **The stages the adapter goes through are those of the frame.** -/
theorem deserialiseStages_eq (root : EccPublicKey) (f : Bytes 1472) (nowEpochS : UInt32)
    (r : ChainReplies) :
    deserialiseStages root (bsmOf f) nowEpochS r = frameStages root f nowEpochS r := by
  have hintermediate : (bsmOf f).intermediateCert.signedMsg = f.load 299 41 :=
    (signedMsg_unpackCert _).trans (Bytes.load_load f (by decide) (by decide))
  have hpseudonym : (bsmOf f).pseudonymCert.signedMsg = f.load 194 41 :=
    (signedMsg_unpackCert _).trans (Bytes.load_load f (by decide) (by decide))
  have hproper : (bsmOf f).payload.load 0 16 = f.load 2 16 :=
    Bytes.load_load f (by decide) (by decide)
  have hpayload : (bsmOf f).payload.toList.take (bsmOf f).payloadLen.toNat =
      (f.load 2 16).toList := by
    rw [← hproper]
    exact take_payload _
  have hintermediateKey : (bsmOf f).intermediateCert.subjectPublicKey = f.load 299 33 :=
    Bytes.load_load f (by decide) (by decide)
  have hintermediateSignature : (bsmOf f).intermediateCert.issuerSignature = f.load 340 64 :=
    Bytes.load_load f (by decide) (by decide)
  have hpseudonymKey : (bsmOf f).pseudonymCert.subjectPublicKey = f.load 194 33 :=
    Bytes.load_load f (by decide) (by decide)
  have hpseudonymSignature : (bsmOf f).pseudonymCert.issuerSignature = f.load 235 64 :=
    Bytes.load_load f (by decide) (by decide)
  have hintermediateWindow : ((bsmOf f).intermediateCert.withinValidity nowEpochS = true) =
      InWindow (f.load 332 4) (f.load 336 4) nowEpochS := by
    apply (withinValidity_unpackCert _ _).trans
    rw [Bytes.load_load, Bytes.load_load]
  have hpseudonymWindow : ((bsmOf f).pseudonymCert.withinValidity nowEpochS = true) =
      InWindow (f.load 227 4) (f.load 231 4) nowEpochS := by
    apply (withinValidity_unpackCert _ _).trans
    rw [Bytes.load_load, Bytes.load_load]
  unfold deserialiseStages chainStages certStages messageStages frameStages
  rw [hintermediate, hpseudonym, hpayload, hintermediateKey, hintermediateSignature, hpseudonymKey,
    hpseudonymSignature, hintermediateWindow, hpseudonymWindow]
  rfl

end layout

/-! ### The call trace -/

section trace

variable {σ : Type} {adapter : V2xNetworkAdapter} {frame : WireFrame} {event : SoaEvent}

/-- A run on a well-formed frame reads the clock once and then goes through the stages of the
frame. -/
theorem run_follows (hinit : adapter.initialised = true) (hframe : WellFormed frame)
    (platform : Platform σ) (s : σ) :
    let ran := (adapter.deserialise frame event).run platform s
    ∃ (nowEpochS : UInt32) (r : ChainReplies) (palCalls : List PlatformCall)
      (status : V2xTrustStatus), ran.calls = ⟨.nowEpochS, nowEpochS⟩ :: palCalls ∧
        Follows .kTrusted (frameStages adapter.verifier.trustedRootKey frame.data nowEpochS r)
          palCalls status ∧
        ran.value = { result := status.result
                      event := if status = .kTrusted then
                          packAdvisory ((bsmOf frame.data).advisory r.keyHash.2) event
                        else event
                      adapter := { adapter with lastTrustStatus := status } } := by
  intro ran
  obtain ⟨nowEpochS, r, palCalls, status, hcalls, hfollows, hout⟩ :=
    deserialise_yields hinit hframe (OracleProg.yields_run _ platform s)
  rw [deserialiseStages_eq] at hfollows
  exact ⟨nowEpochS, r, palCalls, status, hcalls, hfollows, hout⟩

/-- An adapter that is not initialised makes no call and leaves everything alone. -/
theorem run_of_not_initialised (hinit : ¬ adapter.initialised = true) (platform : Platform σ)
    (s : σ) :
    (adapter.deserialise frame event).run platform s =
      { value := { result := .err .kNotInitialized, event, adapter }
        calls := [], oracle := s } := by
  rw [deserialise_of_not_initialised hinit]
  rfl

/-- **What an initialised adapter leaves**: the result of a status, the status, and an advisory in
the event if the status is one of trust. That status is left only by a well-formed frame that went
through all its stages. -/
theorem run_outcome (hinit : adapter.initialised = true) (platform : Platform σ) (s : σ) :
    let ran := (adapter.deserialise frame event).run platform s
    ∃ (status : V2xTrustStatus) (r : ChainReplies),
      ran.value = { result := status.result
                    event := if status = .kTrusted then
                        packAdvisory ((bsmOf frame.data).advisory r.keyHash.2) event
                      else event
                    adapter := { adapter with lastTrustStatus := status } } ∧
        (status = .kTrusted → WellFormed frame ∧
          ∃ (nowEpochS : UInt32) (palCalls : List PlatformCall),
            ran.calls = ⟨.nowEpochS, nowEpochS⟩ :: palCalls ∧
              Passes (frameStages adapter.verifier.trustedRootKey frame.data nowEpochS r)
                palCalls) := by
  intro ran
  by_cases hframe : WellFormed frame
  · obtain ⟨nowEpochS, r, palCalls, status, hcalls, hfollows, hout⟩ :=
      run_follows hinit hframe platform s
    refine ⟨status, r, hout, ?_⟩
    rintro rfl
    refine ⟨hframe, nowEpochS, palCalls, hcalls, ?_⟩
    rcases hfollows with ⟨hpass, -⟩ | hstop
    · exact hpass
    · obtain ⟨st, hst, -, hreason⟩ := hstop.exists_stage
      exact absurd hreason.symm (frameStages_reason st hst).1
  · obtain ⟨-, hout⟩ := deserialise_yields_of_not_wellFormed hinit hframe
      (OracleProg.yields_run _ platform s)
    -- no call was made, so the replies do not matter
    let reply : CryptoStatus × Sha256Digest := (.kOk, Bytes.zeros 32)
    exact ⟨.kInvalidInput, ⟨reply, .kOk, reply, .kOk, reply, .kOk, reply⟩, hout,
      fun h => absurd h (by simp)⟩

/-- **What success takes and leaves**: an initialised adapter, a well-formed frame, and all its
stages. -/
theorem passes_of_ok {platform : Platform σ} {s : σ}
    (hok : ((adapter.deserialise frame event).run platform s).value.result = .ok) :
    let ran := (adapter.deserialise frame event).run platform s
    WellFormed frame ∧ ran.value.adapter.initialised = true ∧
      ∃ (nowEpochS : UInt32) (r : ChainReplies) (palCalls : List PlatformCall),
        ran.calls = ⟨.nowEpochS, nowEpochS⟩ :: palCalls ∧
          Passes (frameStages adapter.verifier.trustedRootKey frame.data nowEpochS r) palCalls ∧
          ran.value.event = packAdvisory ((bsmOf frame.data).advisory r.keyHash.2) event := by
  intro ran
  by_cases hinit : adapter.initialised = true
  · obtain ⟨status, r, hout, hpasses⟩ := run_outcome hinit platform s
    rw [hout] at hok
    obtain rfl := eq_kTrusted_of_result hok
    obtain ⟨hframe, nowEpochS, palCalls, hcalls, hpass⟩ := hpasses rfl
    refine ⟨hframe, ?_, nowEpochS, r, palCalls, hcalls, hpass, ?_⟩
    · exact (congrArg (·.adapter.initialised) hout).trans hinit
    · exact congrArg DeserialiseOutcome.event hout
  · rw [run_of_not_initialised hinit] at hok
    exact absurd hok (by simp)

/-- **No key of a frame is used before it was authenticated.** Whatever the platform is, a frame
that is not well formed makes no call at all. Any other reads the clock once, first. Its platform
calls are a prefix of: the hash of the intermediate's signed bytes, the signature over the digest
under the root key, the hash of the pseudonym's signed bytes, the signature under the intermediate's
key, the hash of the payload, the signature under the pseudonym's key, the hash of that key. The
calls end with the first that does not return `kOk`, or with a signature of a certificate outside
its window. -/
theorem deserialise_calls (hinit : adapter.initialised = true) (platform : Platform σ) (s : σ) :
    let calls := ((adapter.deserialise frame event).run platform s).calls
    (¬ WellFormed frame → calls = []) ∧
      (WellFormed frame → ∃ (nowEpochS : UInt32) (r : ChainReplies) (palCalls : List PlatformCall),
        calls = ⟨.nowEpochS, nowEpochS⟩ :: palCalls ∧
          let stages := frameStages adapter.verifier.trustedRootKey frame.data nowEpochS r
          palCalls <+: callsOf stages ∧
            (Passes stages palCalls ∨ ∃ status, Stops stages palCalls status)) := by
  intro calls
  constructor
  · intro hframe
    exact (deserialise_yields_of_not_wellFormed hinit hframe
      (OracleProg.yields_run _ platform s)).1
  · intro hframe
    obtain ⟨nowEpochS, r, palCalls, status, hcalls, hfollows, -⟩ :=
      run_follows hinit hframe platform s
    refine ⟨nowEpochS, r, palCalls, hcalls, hfollows.isPrefix, ?_⟩
    rcases hfollows with ⟨hpass, -⟩ | hstop
    · exact Or.inl hpass
    · exact Or.inr ⟨status, hstop⟩

/-- An initialised adapter. -/
def initialisedAdapter : V2xNetworkAdapter :=
  ({ verifier := { trustedRootKey := Bytes.zeros 33 } } : V2xNetworkAdapter).init.2

/-- A frame of zeros, but for the length of its payload and certificates valid until second 1000. -/
def plainFrame : WireFrame where
  data := (((Bytes.zeros 1472).store 0 (Bytes.packU16 16)).store 231 (Bytes.packU32 1000)).store 336
    (Bytes.packU32 1000)
  length := 468

/-- It has the form of a frame. -/
theorem plainFrame_wellFormed : WellFormed plainFrame := by
  refine ⟨rfl, ?_⟩
  unfold plainFrame
  rw [Bytes.load_store_of_disjoint _ _ _ (by decide),
    Bytes.load_store_of_disjoint _ _ _ (by decide), Bytes.load_store, Bytes.unpackU16_packU16]

/-- `deserialise_calls` for a plain frame. -/
theorem deserialise_calls_plainFrame :
    ∃ (nowEpochS : UInt32) (r : ChainReplies) (palCalls : List PlatformCall),
      ((initialisedAdapter.deserialise plainFrame {}).run obligingPlatform ⟨⟩).calls =
          ⟨.nowEpochS, nowEpochS⟩ :: palCalls ∧
        let stages := frameStages (Bytes.zeros 33) plainFrame.data nowEpochS r
        palCalls <+: callsOf stages ∧
          (Passes stages palCalls ∨ ∃ status, Stops stages palCalls status) := by
  have hinit : initialisedAdapter.initialised = true := rfl
  exact (deserialise_calls hinit obligingPlatform ⟨⟩).2 plainFrame_wellFormed

end trace

end SotifPlausibility.V2x
