import SotifPlausibility.V2x.CallTrace

/-!
# What the V2X adapter reports

Each call leaves a result and a status of the last frame. Which pairs can there be, and what does
the platform's part in a failure make of them?

* `outcomes`, `deserialise_outcome` — the pairs, whatever the platform replies; a call that fails
  leaves the event alone.
* `FaultsReported` — a fault of the platform shows as a fault, and a signature is called invalid
  only when the platform said so.
* `failed_stage_cases` — the four ways a frame can fail.
* `faultsReported_iff` — the adapter's reports have this property exactly when the platform hashes
  each certificate, and each check of a signature succeeds or says that it failed (`Decisive`).

Source: `V2xNetworkAdapter.cpp`, `V2xNetworkAdapter::Deserialise`; `V2xTrustVerifier.cpp`,
`V2xTrustVerifier::VerifyCertSignature` and `V2xTrustVerifier::VerifyChain`.
-/

namespace SotifPlausibility.V2x

open SotifPlausibility.Found SotifPlausibility.Soa SotifPlausibility.Zzta

/-! ### Outcomes -/

section outcomes

/-- The pairs of a result and a status that an initialised adapter leaves. -/
def outcomes : List (VoidResult × V2xTrustStatus) :=
  [(.ok, .kTrusted),
    (.err .kInvalidArgument, .kInvalidInput),
    (.err .kUnknown, .kCryptoError),
    (.err .kUnauthorized, .kRootSignatureInvalid),
    (.err .kUnauthorized, .kIntermediateExpired),
    (.err .kUnauthorized, .kLeafSignatureInvalid),
    (.err .kUnauthorized, .kLeafExpired),
    (.err .kUnauthorized, .kBsmSignatureInvalid)]

/-- The result of a status and the status are one of the outcomes. -/
theorem result_mem_outcomes (status : V2xTrustStatus) : (status.result, status) ∈ outcomes := by
  cases status <;> simp [V2xTrustStatus.result, outcomes]

/-- The status of a hash or of a check of a classical signature. -/
def palStatus : PlatformCall → Option CryptoStatus
  | ⟨.computeSha256 _, reply⟩ => some reply.1
  | ⟨.verifyEccSignature _ _ _, status⟩ => some status
  | _ => none

/-- The platform did what it was asked. -/
def Succeeded (c : PlatformCall) : Prop := ∀ status ∈ palStatus c, status = .kOk

variable {adapter : V2xNetworkAdapter} {frame : WireFrame} {event : SoaEvent}
  {root : EccPublicKey} {f : Bytes 1472} {nowEpochS : UInt32} {r : ChainReplies}
  {calls : List PlatformCall} {status : V2xTrustStatus}

/-- The call of a stage that holds succeeded. -/
theorem succeeded_of_holds {st : Stage PlatformCall V2xTrustStatus}
    (hst : st ∈ frameStages root f nowEpochS r) {c : PlatformCall} (hcall : st.call = some c)
    (h : st.holds) : Succeeded c := by
  simp only [frameStages, List.mem_cons, List.not_mem_nil, or_false] at hst
  rcases hst with rfl | rfl | rfl | rfl | rfl | rfl | rfl | rfl | rfl <;> cases hcall <;>
    simpa [Succeeded, palStatus] using h

/-- A message of the length the adapter asks for is not malformed to the verifier. -/
theorem verifyChain_ne_kInvalidInput {verifier : V2xTrustVerifier} {bsm : V2xSignedBsm}
    (hlen : bsm.payloadLen = kBsmCorePayloadBytes)
    (h : (verifier.verifyChain bsm nowEpochS).Yields calls status) : status ≠ .kInvalidInput := by
  have hpos : bsm.payloadLen ≠ 0 := by
    rw [hlen]
    decide
  have hmax : bsm.payloadLen.toNat ≤ kMaxBsmPayloadBytes := by
    rw [hlen]
    decide
  obtain ⟨r, ⟨-, rfl⟩ | hstop⟩ := verifyChain_yields hpos hmax h
  · simp
  · obtain ⟨st, hst, -, rfl⟩ := hstop.exists_stage
    exact (chainStages_reason st hst).2

/-- **No fabricated event and no contradictory status.** Whatever the adapter, the frame, the event
and the platform are: a call that fails leaves the event alone, and an initialised adapter leaves
one of the listed pairs of result and status. The verifier never finds a message malformed that got
this far. A hash that fails, before or after the chain was trusted, leaves neither an event nor
trust. -/
theorem deserialise_outcome {σ : Type} (adapter : V2xNetworkAdapter) (frame : WireFrame)
    (event : SoaEvent) (platform : Platform σ) (s : σ) :
    let ran := (adapter.deserialise frame event).run platform s
    (ran.value.result ≠ .ok → ran.value.event = event) ∧
      (adapter.initialised = true →
        (ran.value.result, ran.value.adapter.getLastTrustStatus) ∈ outcomes) ∧
      (∀ bsm, unpackWireFrame frame = some bsm → bsm.payloadLen = kBsmCorePayloadBytes →
        ∀ nowEpochS s', ((adapter.verifier.verifyChain bsm nowEpochS).run platform s').value ≠
          .kInvalidInput) ∧
      ∀ data reply, (⟨.computeSha256 data, reply⟩ : PlatformCall) ∈ ran.calls → reply.1 ≠ .kOk →
        ran.value.event = event ∧ ran.value.adapter.getLastTrustStatus ≠ .kTrusted := by
  intro ran
  have hverifier : ∀ bsm, unpackWireFrame frame = some bsm →
      bsm.payloadLen = kBsmCorePayloadBytes → ∀ nowEpochS s',
        ((adapter.verifier.verifyChain bsm nowEpochS).run platform s').value ≠ .kInvalidInput := by
    intro bsm _ hlen nowEpochS s'
    exact verifyChain_ne_kInvalidInput hlen (OracleProg.yields_run _ platform s')
  by_cases hinit : adapter.initialised = true
  swap
  · have hran : ran = _ := run_of_not_initialised hinit platform s
    rw [hran]
    exact ⟨fun _ => rfl, fun h => absurd h hinit, hverifier,
      fun _ _ hmem => absurd hmem List.not_mem_nil⟩
  obtain ⟨status, r, hout, hpasses⟩ := run_outcome hinit platform s
  -- the event is written for one status only, and that is the one of success
  have huntrusted : status ≠ .kTrusted →
      ran.value.event = event ∧ ran.value.adapter.getLastTrustStatus ≠ .kTrusted := by
    intro hne
    rw [hout]
    exact ⟨if_neg hne, hne⟩
  refine ⟨?_, ?_, hverifier, ?_⟩
  · intro hne
    apply (huntrusted _).1
    rintro rfl
    rw [hout] at hne
    exact hne rfl
  · intro _
    rw [hout]
    exact result_mem_outcomes status
  · intro data reply hmem hreply
    apply huntrusted
    intro htrusted
    obtain ⟨-, now, palCalls, hcalls, hpass⟩ := hpasses htrusted
    rw [hcalls] at hmem
    rcases List.mem_cons.mp hmem with hclock | hpal
    · exact absurd hclock (by simp)
    · obtain ⟨st, hst, hcall, hholds⟩ := hpass.holds_of_mem _ hpal
      exact absurd (succeeded_of_holds hst hcall hholds reply.1 rfl) hreply

/-- A platform whose hash fails. -/
def faultyPlatform : Platform PUnit :=
  Oracle.ofFun fun
    | .computeSha256 _ => (.kHwFault, Bytes.zeros 32)
    | q => (obligingPlatform.answer ⟨⟩ q).1

/-- On a plain frame that platform is asked for one hash, and the root's signature is called
invalid. -/
theorem run_faultyPlatform (event : SoaEvent) :
    (initialisedAdapter.deserialise plainFrame event).run faultyPlatform ⟨⟩ =
      { value :=
          { result := .err .kUnauthorized, event
            adapter := { initialisedAdapter with lastTrustStatus := .kRootSignatureInvalid } }
        calls := [⟨.nowEpochS, 100⟩,
          ⟨.computeSha256 (bsmOf plainFrame.data).intermediateCert.signedMsg.toList,
            (.kHwFault, Bytes.zeros 32)⟩]
        oracle := ⟨⟩ } := by
  unfold V2xNetworkAdapter.deserialise
  rw [if_neg (by simp [initialisedAdapter, V2xNetworkAdapter.init]),
    unpackWireFrame_of_wellFormed plainFrame_wellFormed]
  dsimp only
  rw [if_neg (by simp [bsmOf, kBsmCorePayloadBytes])]
  rfl

/-- `deserialise_outcome` for a hash that fails: the event is as it was, and the status is not
trust. -/
theorem deserialise_outcome_faultyPlatform :
    let ran := (initialisedAdapter.deserialise plainFrame { eventId := 7 }).run faultyPlatform ⟨⟩
    ran.value.event = { eventId := 7 } ∧
      ran.value.adapter.getLastTrustStatus ≠ .kTrusted := by
  refine (deserialise_outcome initialisedAdapter plainFrame { eventId := 7 } faultyPlatform
    ⟨⟩).2.2.2 (bsmOf plainFrame.data).intermediateCert.signedMsg.toList
    (.kHwFault, Bytes.zeros 32) ?_ (by simp)
  rw [run_faultyPlatform]
  exact List.mem_cons_of_mem _ (List.mem_singleton_self _)

end outcomes

/-! ### Faults -/

section faults

/-- The platform reported a fault of its own. -/
def Faulty (c : PlatformCall) : Prop :=
  palStatus c = some .kHwFault ∨ palStatus c = some .kInternalError

/-- The status says that a signature does not verify. -/
def SignatureInvalid (status : V2xTrustStatus) : Prop :=
  status = .kRootSignatureInvalid ∨ status = .kLeafSignatureInvalid ∨
    status = .kBsmSignatureInvalid

/-- A fault of the platform shows as a fault, and a signature is called invalid only when the
platform said so. -/
structure FaultsReported (calls : List PlatformCall) (out : DeserialiseOutcome) : Prop where
  fault : (∃ c ∈ calls, Faulty c) →
    out.result = .err .kUnknown ∧ out.adapter.getLastTrustStatus = .kCryptoError
  forgery : out.result = .err .kUnauthorized →
    SignatureInvalid out.adapter.getLastTrustStatus →
      ∃ digest signature publicKey,
        (⟨.verifyEccSignature digest signature publicKey, .kVerifyFailed⟩ : PlatformCall) ∈ calls

/-- The length of the bytes an issuer signs. -/
def kCertSignedMsgLen : ℕ := 33 + 4 + 4

/-- A reply that decides on a signature: the bytes of a certificate are hashed, a check says yes or
no. Any other reply counts as one. -/
def Decisive : (q : PlatformQuery) → PlatformReply q → Prop
  | .computeSha256 data, reply => data.length = kCertSignedMsgLen → reply.1 = .kOk
  | .verifyEccSignature _ _ _, status => status = .kOk ∨ status = .kVerifyFailed
  | _, _ => True

variable {adapter : V2xNetworkAdapter} {frame : WireFrame} {event : SoaEvent}
  {root : EccPublicKey} {f : Bytes 1472} {nowEpochS : UInt32} {r : ChainReplies}
  {calls earlier : List PlatformCall} {c : PlatformCall} {out : DeserialiseOutcome}

/-- A call that succeeded is no fault. -/
theorem not_faulty_of_succeeded (h : Succeeded c) : ¬ Faulty c := by
  rintro (hfault | hfault) <;> exact absurd (h _ hfault) (by simp)

/-- A call that succeeded is decisive. -/
theorem decisive_of_succeeded (h : Succeeded c) : Decisive c.query c.reply := by
  obtain ⟨query, reply⟩ := c
  cases query with
  | computeSha256 data => exact fun _ => h _ rfl
  | verifyEccSignature digest signature publicKey => exact Or.inl (h _ rfl)
  | _ => trivial

/-- A failed check of a signature is not a call that succeeded. -/
theorem not_verifyFailed_of_succeeded {digest : Sha256Digest} {signature : CryptoSignature}
    {publicKey : EccPublicKey} :
    ¬ Succeeded ⟨.verifyEccSignature digest signature publicKey, .kVerifyFailed⟩ := by
  intro h
  exact absurd (h .kVerifyFailed rfl) (by simp)

/-- Calls that all succeeded are reported right, if the outcome does not speak of a signature. -/
theorem faultsReported_of_succeeded (hcalls : ∀ c ∈ calls, Succeeded c)
    (hout : ¬ SignatureInvalid out.adapter.getLastTrustStatus) : FaultsReported calls out where
  fault := by
    rintro ⟨c, hc, hfault⟩
    exact absurd hfault (not_faulty_of_succeeded (hcalls c hc))
  forgery _ hinvalid := absurd hinvalid hout

/-- Only the last call matters to the replies. -/
theorem decisive_concat_iff (hearlier : ∀ c ∈ earlier, Succeeded c) :
    (∀ c' ∈ earlier ++ [c], Decisive c'.query c'.reply) ↔ Decisive c.query c.reply := by
  constructor
  · intro h
    exact h c (by simp)
  · intro h c' hc'
    rcases List.mem_append.mp hc' with hc' | hc'
    · exact decisive_of_succeeded (hearlier c' hc')
    · obtain rfl := List.mem_singleton.mp hc'
      exact h

/-- Only the last call matters to the report. -/
theorem faultsReported_concat_iff (hearlier : ∀ c ∈ earlier, Succeeded c) :
    FaultsReported (earlier ++ [c]) out ↔ FaultsReported [c] out := by
  have hmem {c' : PlatformCall} (hnot : ¬ Succeeded c') (hc' : c' ∈ earlier ++ [c]) :
      c' ∈ [c] := by
    rcases List.mem_append.mp hc' with hc' | hc'
    · exact absurd (hearlier c' hc') hnot
    · exact hc'
  constructor
  · intro h
    refine ⟨?_, ?_⟩
    · rintro ⟨c', hc', hfault⟩
      exact h.fault ⟨c', List.mem_append_right _ hc', hfault⟩
    · intro hres hinvalid
      obtain ⟨digest, signature, publicKey, hc'⟩ := h.forgery hres hinvalid
      exact ⟨digest, signature, publicKey, hmem not_verifyFailed_of_succeeded hc'⟩
  · intro h
    refine ⟨?_, ?_⟩
    · rintro ⟨c', hc', hfault⟩
      exact h.fault ⟨c', hmem (fun hok => not_faulty_of_succeeded hok hfault) hc', hfault⟩
    · intro hres hinvalid
      obtain ⟨digest, signature, publicKey, hc'⟩ := h.forgery hres hinvalid
      exact ⟨digest, signature, publicKey, List.mem_append_right _ hc'⟩

/-- **The ways a frame fails**: a window that does not contain the time, a hash of the payload or of
the key, a hash of a certificate, a check of a signature. -/
theorem failed_stage_cases {st : Stage PlatformCall V2xTrustStatus}
    (hst : st ∈ frameStages root f nowEpochS r) (hfail : ¬ st.holds) :
    (st.call = none ∧ ¬ SignatureInvalid st.reason) ∨
      (∃ data reply, st.call = some ⟨.computeSha256 data, reply⟩ ∧
        data.length ≠ kCertSignedMsgLen ∧ st.reason = .kCryptoError) ∨
      (∃ data reply, st.call = some ⟨.computeSha256 data, reply⟩ ∧
        data.length = kCertSignedMsgLen ∧ reply.1 ≠ .kOk ∧ SignatureInvalid st.reason) ∨
      ∃ digest signature publicKey status,
        st.call = some ⟨.verifyEccSignature digest signature publicKey, status⟩ ∧
          status ≠ .kOk ∧ SignatureInvalid st.reason := by
  simp only [frameStages, List.mem_cons, List.not_mem_nil, or_false] at hst
  rcases hst with rfl | rfl | rfl | rfl | rfl | rfl | rfl | rfl | rfl
  -- the intermediate certificate
  · exact Or.inr (Or.inr (Or.inl ⟨_, _, rfl, by simp [kCertSignedMsgLen], hfail, Or.inl rfl⟩))
  · exact Or.inr (Or.inr (Or.inr ⟨_, _, _, _, rfl, hfail, Or.inl rfl⟩))
  · exact Or.inl ⟨rfl, by simp [SignatureInvalid]⟩
  -- the pseudonym certificate
  · exact Or.inr (Or.inr (Or.inl ⟨_, _, rfl, by simp [kCertSignedMsgLen], hfail,
      Or.inr (Or.inl rfl)⟩))
  · exact Or.inr (Or.inr (Or.inr ⟨_, _, _, _, rfl, hfail, Or.inr (Or.inl rfl)⟩))
  · exact Or.inl ⟨rfl, by simp [SignatureInvalid]⟩
  -- the message and the key
  · exact Or.inr (Or.inl ⟨_, _, rfl, by simp [kCertSignedMsgLen], rfl⟩)
  · exact Or.inr (Or.inr (Or.inr ⟨_, _, _, _, rfl, hfail, Or.inr (Or.inr rfl)⟩))
  · exact Or.inr (Or.inl ⟨_, _, rfl, by simp [kCertSignedMsgLen], rfl⟩)

/-- An invalid signature is answered unauthorized. -/
theorem result_of_signatureInvalid {status : V2xTrustStatus} (h : SignatureInvalid status) :
    status.result = .err .kUnauthorized := by
  rcases h with rfl | rfl | rfl <;> rfl

/-- The report of the stage that failed is right exactly when its reply is decisive. -/
theorem faultsReported_failed_iff {st : Stage PlatformCall V2xTrustStatus}
    (hst : st ∈ frameStages root f nowEpochS r) (hfail : ¬ st.holds)
    (hearlier : ∀ c ∈ earlier, Succeeded c) (hres : out.result = st.reason.result)
    (hlast : out.adapter.getLastTrustStatus = st.reason) :
    FaultsReported (earlier ++ st.call.toList) out ↔
      ∀ c ∈ earlier ++ st.call.toList, Decisive c.query c.reply := by
  rcases failed_stage_cases hst hfail with ⟨hcall, hvalid⟩ |
    ⟨data, reply, hcall, hlen, hreason⟩ | ⟨data, reply, hcall, hlen, hreply, hinvalid⟩ |
    ⟨digest, signature, publicKey, status, hcall, hstatus, hinvalid⟩
  · -- a window: every call succeeded
    rw [hcall, Option.toList_none, List.append_nil]
    constructor
    · intro _ c hc
      exact decisive_of_succeeded (hearlier c hc)
    · intro _
      apply faultsReported_of_succeeded hearlier
      rw [hlast]
      exact hvalid
  all_goals
    rw [hcall, Option.toList_some, faultsReported_concat_iff hearlier,
      decisive_concat_iff hearlier]
  · -- a hash of the payload or of the key: reported as a fault, whatever the reply is
    rw [hreason] at hres hlast
    constructor
    · intro _ hcert
      exact absurd hcert hlen
    · intro _
      refine ⟨fun _ => ⟨hres, hlast⟩, ?_⟩
      intro hunauthorized
      exact absurd (hres.symm.trans hunauthorized) (by simp [V2xTrustStatus.result])
  all_goals rw [result_of_signatureInvalid hinvalid] at hres
  · -- a hash of a certificate: a forgery without a check
    constructor
    · intro h
      obtain ⟨digest, signature, publicKey, hmem⟩ := h.forgery hres (hlast ▸ hinvalid)
      exact absurd (List.mem_singleton.mp hmem) (by simp)
    · intro h
      exact absurd (h hlen) hreply
  · -- a check of a signature: a forgery, if the reply says so
    constructor
    · intro h
      obtain ⟨digest', signature', publicKey', hmem⟩ := h.forgery hres (hlast ▸ hinvalid)
      have hcalls := List.mem_singleton.mp hmem
      cases hcalls
      exact Or.inr rfl
    · intro h
      obtain rfl : status = .kVerifyFailed := h.resolve_left hstatus
      refine ⟨?_, fun _ _ => ⟨digest, signature, publicKey, List.mem_singleton_self _⟩⟩
      rintro ⟨c, hc, hfault⟩
      obtain rfl := List.mem_singleton.mp hc
      exact absurd hfault (by simp [Faulty, palStatus])

/-- **When faults are reported as faults.** With any platform, an initialised adapter reports a
fault of the platform as one, and calls a signature invalid only when a check said so, exactly when
every reply was decisive: each hash of a certificate succeeded, and each check of a signature
succeeded or said that it failed. -/
theorem faultsReported_iff {σ : Type} (hinit : adapter.initialised = true)
    (platform : Platform σ) (s : σ) :
    let ran := (adapter.deserialise frame event).run platform s
    FaultsReported ran.calls ran.value ↔
      ∀ c ∈ ran.calls, Decisive c.query c.reply := by
  intro ran
  by_cases hframe : WellFormed frame
  swap
  · obtain ⟨hcalls, hout⟩ := deserialise_yields_of_not_wellFormed hinit hframe
      (OracleProg.yields_run _ platform s)
    rw [hcalls, hout]
    constructor
    · intro _ c hc
      exact absurd hc List.not_mem_nil
    · intro _
      apply faultsReported_of_succeeded
      · intro c hc
        exact absurd hc List.not_mem_nil
      · simp [SignatureInvalid, V2xNetworkAdapter.getLastTrustStatus]
  obtain ⟨now, r, palCalls, status, hcalls, hfollows, hout⟩ := run_follows hinit hframe platform s
  rw [hcalls, hout]
  -- the clock, and the calls of stages that hold
  have hclock : Succeeded ⟨.nowEpochS, now⟩ := fun _ hstatus => nomatch hstatus
  have hsucceeded {cs : List PlatformCall} (hcs : ∀ c ∈ cs, ∃ st ∈ frameStages
      adapter.verifier.trustedRootKey frame.data now r, st.call = some c ∧ st.holds) :
      ∀ c ∈ (⟨.nowEpochS, now⟩ : PlatformCall) :: cs, Succeeded c := by
    intro c hc
    rcases List.mem_cons.mp hc with rfl | hc
    · exact hclock
    · obtain ⟨st, hst, hcall, hholds⟩ := hcs c hc
      exact succeeded_of_holds hst hcall hholds
  rcases hfollows with ⟨hpass, rfl⟩ | hstop
  · have hall := hsucceeded hpass.holds_of_mem
    constructor
    · intro _ c hc
      exact decisive_of_succeeded (hall c hc)
    · intro _
      apply faultsReported_of_succeeded hall
      simp [SignatureInvalid, V2xNetworkAdapter.getLastTrustStatus]
  · obtain ⟨st, hst, hfail, rfl, earlier, rfl, hearlier⟩ := hstop.exists_last
    exact faultsReported_failed_iff hst hfail (hsucceeded hearlier) rfl rfl

/-- A platform to which every signature is a forgery. -/
def refusingPlatform : Platform PUnit :=
  Oracle.ofFun fun
    | .verifyEccSignature _ _ _ => .kVerifyFailed
    | q => (obligingPlatform.answer ⟨⟩ q).1

/-- The refusing platform has no faults. -/
theorem refusingPlatform_decisive (s : PUnit) (q : PlatformQuery) :
    Decisive q (refusingPlatform.answer s q).1 := by
  cases q with
  | computeSha256 data => exact fun _ => rfl
  | verifyEccSignature digest signature publicKey => exact Or.inr rfl
  | _ => trivial

/-- `faultsReported_iff` for a platform to which every signature is a forgery. -/
theorem faultsReported_refusingPlatform :
    let ran := (initialisedAdapter.deserialise plainFrame {}).run refusingPlatform ⟨⟩
    FaultsReported ran.calls ran.value :=
  have hinit : initialisedAdapter.initialised = true := rfl
  (faultsReported_iff hinit refusingPlatform ⟨⟩).mpr
    (OracleProg.run_calls_of_answer refusingPlatform_decisive _ _)

/-- A hash that fails with a fault of the hardware is reported as a forgery of the root's signature,
and no signature was checked. -/
theorem fault_reported_as_forgery :
    let ran := (initialisedAdapter.deserialise plainFrame {}).run faultyPlatform ⟨⟩
    (∃ c ∈ ran.calls, palStatus c = some .kHwFault) ∧
      ran.value.result = .err .kUnauthorized ∧
      ran.value.adapter.getLastTrustStatus = .kRootSignatureInvalid ∧
      ¬ FaultsReported ran.calls ran.value := by
  intro ran
  have hran : ran = _ := run_faultyPlatform {}
  rw [hran]
  have hfault : ∃ c ∈ [(⟨.nowEpochS, 100⟩ : PlatformCall),
      ⟨.computeSha256 (bsmOf plainFrame.data).intermediateCert.signedMsg.toList,
        (.kHwFault, Bytes.zeros 32)⟩], palStatus c = some .kHwFault :=
    ⟨_, List.mem_cons_of_mem _ (List.mem_singleton_self _), rfl⟩
  refine ⟨hfault, rfl, rfl, ?_⟩
  intro h
  obtain ⟨c, hc, hstatus⟩ := hfault
  exact absurd (h.fault ⟨c, hc, Or.inl hstatus⟩).1 (by simp)

end faults

end SotifPlausibility.V2x
