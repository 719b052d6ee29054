import SotifPlausibility.V2x.CallTrace

/-!
# What the V2X adapter accepts

For a crypto platform whose hash and signature check are functions of their arguments, acceptance is
a condition on the bytes received.

* `AcceptedFrame` — the condition: three signatures over three digests, two windows, and every hash
  succeeds.
* `deserialise_ok_iff` — the adapter accepts exactly these frames.
-/

namespace SotifPlausibility.V2x

open SotifPlausibility.Found SotifPlausibility.Soa SotifPlausibility.Zzta

/-- The certificate chain over the received bytes, from a root key. -/
structure AcceptedFrame (sha256 : List UInt8 → CryptoStatus × Sha256Digest)
    (verifyEcc : Sha256Digest → CryptoSignature → EccPublicKey → CryptoStatus)
    (root : EccPublicKey) (nowEpochS : UInt32) (frame : WireFrame) : Prop where
  length : frame.length = 468
  payloadLen : Bytes.unpackU16 (frame.data.load 0 2) = 16
  /-- The root key signed the intermediate certificate. -/
  intermediateSignature : verifyEcc (sha256 (frame.data.load 299 41).toList).2
    (frame.data.load 340 64) root = .kOk
  /-- The intermediate key signed the pseudonym certificate. -/
  pseudonymSignature : verifyEcc (sha256 (frame.data.load 194 41).toList).2
    (frame.data.load 235 64) (frame.data.load 299 33) = .kOk
  /-- The pseudonym key signed the payload. -/
  bsmSignature : verifyEcc (sha256 (frame.data.load 2 16).toList).2
    (frame.data.load 404 64) (frame.data.load 194 33) = .kOk
  intermediateWindow : InWindow (frame.data.load 332 4) (frame.data.load 336 4) nowEpochS
  pseudonymWindow : InWindow (frame.data.load 227 4) (frame.data.load 231 4) nowEpochS
  intermediateHash : (sha256 (frame.data.load 299 41).toList).1 = .kOk
  pseudonymHash : (sha256 (frame.data.load 194 41).toList).1 = .kOk
  payloadHash : (sha256 (frame.data.load 2 16).toList).1 = .kOk
  keyHash : (sha256 (frame.data.load 194 33).toList).1 = .kOk

/-- A reply is that of the given hash, signature check and clock. -/
def Answered (sha256 : List UInt8 → CryptoStatus × Sha256Digest)
    (verifyEcc : Sha256Digest → CryptoSignature → EccPublicKey → CryptoStatus)
    (nowEpochS : UInt32) : (q : PlatformQuery) → PlatformReply q → Prop
  | .nowEpochS, r => r = nowEpochS
  | .computeSha256 data, r => r = sha256 data
  | .verifyEccSignature digest signature publicKey, r => r = verifyEcc digest signature publicKey
  | _, _ => True

section acceptance

variable {sha256 : List UInt8 → CryptoStatus × Sha256Digest}
  {verifyEcc : Sha256Digest → CryptoSignature → EccPublicKey → CryptoStatus} {root : EccPublicKey}
  {nowEpochS : UInt32} {frame : WireFrame} {r : ChainReplies} {calls : List PlatformCall}
  {status : V2xTrustStatus}

/-- A frame whose stages all hold is accepted: their calls were made, so the replies are those of
the platform's functions. -/
theorem acceptedFrame_of_passes (hframe : WellFormed frame)
    (hpass : Passes (frameStages root frame.data nowEpochS r) calls)
    (hanswer : ∀ c ∈ calls, Answered sha256 verifyEcc nowEpochS c.query c.reply) :
    AcceptedFrame sha256 verifyEcc root nowEpochS frame := by
  obtain ⟨hall, rfl⟩ := hpass
  simp only [frameStages, callsOf, List.filterMap_cons, List.filterMap_nil, List.mem_cons,
    List.not_mem_nil, or_false, forall_eq_or_imp, forall_eq, Answered] at hall hanswer
  obtain ⟨hhash₁, hsignature₁, hwindow₁, hhash₂, hsignature₂, hwindow₂, hhash₃, hsignature₃,
    hkey⟩ := hall
  obtain ⟨answer₁, answer₁', answer₂, answer₂', answer₃, answer₃', answer₄⟩ := hanswer
  rw [answer₁] at hhash₁ answer₁'
  rw [answer₂] at hhash₂ answer₂'
  rw [answer₃] at hhash₃ answer₃'
  exact
    { length := hframe.1
      payloadLen := hframe.2
      intermediateSignature := answer₁' ▸ hsignature₁
      pseudonymSignature := answer₂' ▸ hsignature₂
      bsmSignature := answer₃' ▸ hsignature₃
      intermediateWindow := hwindow₁
      pseudonymWindow := hwindow₂
      intermediateHash := hhash₁
      pseudonymHash := hhash₂
      payloadHash := hhash₃
      keyHash := answer₄ ▸ hkey }

/-- An accepted frame goes through all its stages. -/
theorem eq_kTrusted_of_acceptedFrame (h : AcceptedFrame sha256 verifyEcc root nowEpochS frame)
    (hfollows : Follows .kTrusted (frameStages root frame.data nowEpochS r) calls status)
    (hanswer : ∀ c ∈ calls, Answered sha256 verifyEcc nowEpochS c.query c.reply) :
    status = .kTrusted := by
  have hash {data : List UInt8} {reply : CryptoStatus × Sha256Digest}
      (hmem : (⟨.computeSha256 data, reply⟩ : PlatformCall) ∈ calls) : reply = sha256 data :=
    hanswer _ hmem
  have signature {d : Sha256Digest} {g : CryptoSignature} {k : EccPublicKey} {reply : CryptoStatus}
      (hmem : (⟨.verifyEccSignature d g k, reply⟩ : PlatformCall) ∈ calls) :
      reply = verifyEcc d g k := hanswer _ hmem
  -- stage by stage: the call is made, its reply is the platform's, and the condition is one of `h`
  obtain ⟨calls₁, hsub₁, hcall₁, hf₁⟩ := hfollows.tail (List.Subset.refl _)
    fun hc => hash (hc _ rfl) ▸ h.intermediateHash
  have hhash₁ := hash (hcall₁ _ rfl)
  obtain ⟨calls₂, hsub₂, -, hf₂⟩ := hf₁.tail hsub₁ fun hc => by
    rw [signature (hc _ rfl), hhash₁]
    exact h.intermediateSignature
  obtain ⟨calls₃, hsub₃, -, hf₃⟩ := hf₂.tail hsub₂ fun _ => h.intermediateWindow
  obtain ⟨calls₄, hsub₄, hcall₄, hf₄⟩ := hf₃.tail hsub₃
    fun hc => hash (hc _ rfl) ▸ h.pseudonymHash
  have hhash₂ := hash (hcall₄ _ rfl)
  obtain ⟨calls₅, hsub₅, -, hf₅⟩ := hf₄.tail hsub₄ fun hc => by
    rw [signature (hc _ rfl), hhash₂]
    exact h.pseudonymSignature
  obtain ⟨calls₆, hsub₆, -, hf₆⟩ := hf₅.tail hsub₅ fun _ => h.pseudonymWindow
  obtain ⟨calls₇, hsub₇, hcall₇, hf₇⟩ := hf₆.tail hsub₆ fun hc => hash (hc _ rfl) ▸ h.payloadHash
  have hhash₃ := hash (hcall₇ _ rfl)
  obtain ⟨calls₈, hsub₈, -, hf₈⟩ := hf₇.tail hsub₇ fun hc => by
    rw [signature (hc _ rfl), hhash₃]
    exact h.bsmSignature
  obtain ⟨calls₉, -, -, hf₉⟩ := hf₈.tail hsub₈ fun hc => hash (hc _ rfl) ▸ h.keyHash
  exact hf₉.eq_of_nil

/-- An accepted frame is answered so. -/
theorem deserialise_ok_of_acceptedFrame {σ : Type} {platform : Platform σ}
    {adapter : V2xNetworkAdapter}
    (hanswer : ∀ s q, Answered sha256 verifyEcc nowEpochS q (platform.answer s q).1)
    (hinit : adapter.initialised = true)
    (h : AcceptedFrame sha256 verifyEcc adapter.verifier.trustedRootKey nowEpochS frame)
    (event : SoaEvent) (s : σ) :
    ((adapter.deserialise frame event).run platform s).value.result = .ok := by
  have hcalls := OracleProg.run_calls_of_answer hanswer (adapter.deserialise frame event) s
  obtain ⟨now, r, palCalls, status, hlog, hfollows, hout⟩ :=
    run_follows hinit ⟨h.length, h.payloadLen⟩ platform s
  rw [hlog] at hcalls
  have hnow : now = nowEpochS := hcalls ⟨.nowEpochS, now⟩ (by simp)
  rw [hnow] at hfollows
  rw [hout, eq_kTrusted_of_acceptedFrame h hfollows fun c hc => hcalls c (by simp [hc])]
  rfl

/-- **What the adapter accepts.** For a platform that answers the hash, the signature check and the
clock by functions, whatever else it does, an initialised adapter accepts exactly the frames whose
certificate chain holds over the bytes received. -/
theorem deserialise_ok_iff {σ : Type} {platform : Platform σ} {adapter : V2xNetworkAdapter}
    (hanswer : ∀ s q, Answered sha256 verifyEcc nowEpochS q (platform.answer s q).1)
    (hinit : adapter.initialised = true) (frame : WireFrame) (event : SoaEvent) (s : σ) :
    ((adapter.deserialise frame event).run platform s).value.result = .ok ↔
      AcceptedFrame sha256 verifyEcc adapter.verifier.trustedRootKey nowEpochS frame := by
  constructor
  · intro hok
    have hcalls := OracleProg.run_calls_of_answer hanswer (adapter.deserialise frame event) s
    obtain ⟨hframe, -, now, r, palCalls, hlog, hpass, -⟩ := passes_of_ok hok
    rw [hlog] at hcalls
    have hnow : now = nowEpochS := hcalls ⟨.nowEpochS, now⟩ (by simp)
    rw [hnow] at hpass
    exact acceptedFrame_of_passes hframe hpass fun c hc => hcalls c (by simp [hc])
  · intro h
    exact deserialise_ok_of_acceptedFrame hanswer hinit h event s

/-- The obliging platform answers by its arguments. -/
theorem obligingPlatform_answered (s : PUnit) (q : PlatformQuery) :
    Answered (fun _ => (.kOk, Bytes.zeros 32)) (fun _ _ _ => .kOk) 100 q
      (obligingPlatform.answer s q).1 := by
  cases q with
  | nowEpochS => exact rfl
  | computeSha256 data => exact rfl
  | verifyEccSignature digest signature publicKey => exact rfl
  | generateRandomNonce nonceOut => trivial
  | deriveSessionKey sessionNonce clientId => trivial
  | pqcVerify publicKey message signature => trivial

/-- The windows of the plain frame are from 0 to 1000. -/
theorem plainFrame_windows :
    InWindow (plainFrame.data.load 332 4) (plainFrame.data.load 336 4) 100 ∧
      InWindow (plainFrame.data.load 227 4) (plainFrame.data.load 231 4) 100 := by
  have hfrom₁ : plainFrame.data.load 332 4 = Bytes.zeros 4 := by
    unfold plainFrame
    rw [Bytes.load_store_of_disjoint _ _ _ (by decide),
      Bytes.load_store_of_disjoint _ _ _ (by decide),
      Bytes.load_store_of_disjoint _ _ _ (by decide), Bytes.load_zeros]
  have huntil₁ : plainFrame.data.load 336 4 = Bytes.packU32 1000 := by
    unfold plainFrame
    rw [Bytes.load_store]
  have hfrom₂ : plainFrame.data.load 227 4 = Bytes.zeros 4 := by
    unfold plainFrame
    rw [Bytes.load_store_of_disjoint _ _ _ (by decide),
      Bytes.load_store_of_disjoint _ _ _ (by decide),
      Bytes.load_store_of_disjoint _ _ _ (by decide), Bytes.load_zeros]
  have huntil₂ : plainFrame.data.load 231 4 = Bytes.packU32 1000 := by
    unfold plainFrame
    rw [Bytes.load_store_of_disjoint _ _ _ (by decide), Bytes.load_store]
  unfold InWindow
  rw [hfrom₁, huntil₁, hfrom₂, huntil₂]
  decide

/-- The chain of the plain frame holds if every hash and every check succeeds. -/
theorem acceptedFrame_plainFrame :
    AcceptedFrame (fun _ => (.kOk, Bytes.zeros 32)) (fun _ _ _ => .kOk)
      initialisedAdapter.verifier.trustedRootKey 100 plainFrame where
  length := rfl
  payloadLen := plainFrame_wellFormed.2
  intermediateSignature := rfl
  pseudonymSignature := rfl
  bsmSignature := rfl
  intermediateWindow := plainFrame_windows.1
  pseudonymWindow := plainFrame_windows.2
  intermediateHash := rfl
  pseudonymHash := rfl
  payloadHash := rfl
  keyHash := rfl

/-- `deserialise_ok_iff` for a platform on which every call succeeds: a frame is accepted inside
the windows of its certificates. -/
theorem deserialise_ok_plainFrame :
    ((initialisedAdapter.deserialise plainFrame {}).run obligingPlatform ⟨⟩).value.result = .ok :=
  have hinit : initialisedAdapter.initialised = true := rfl
  (deserialise_ok_iff obligingPlatform_answered hinit plainFrame {} ⟨⟩).mpr
    acceptedFrame_plainFrame

end acceptance

end SotifPlausibility.V2x
