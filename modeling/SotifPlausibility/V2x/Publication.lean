import SotifPlausibility.Found.TwosComplement
import SotifPlausibility.V2x.Acceptance

/-!
# What the V2X adapter publishes

The content of a verified message goes through unsigned words, signed numbers and unsigned words
again before it is published. It comes out as it went in.

* `CoreMessage` — what a sender means, with its bytes in two's complement (`encode`, `decode`).
* `message_advisory` — the casts of the code read two's complement.
* `Published` — the specification of an advisory event, by the bytes of the frame and the digest of
  the pseudonym key.
* `published_of_ok` — a frame that is accepted is published so, and nothing else in the frame shows
  in the event.

Source: `CooperativeAwarenessAdvisory.hpp`; `V2xNetworkAdapter.cpp`,
`V2xNetworkAdapter::PackAdvisory` and `V2xNetworkAdapter::Deserialise`.
-/

namespace SotifPlausibility.V2x

open SotifPlausibility.Found SotifPlausibility.Soa SotifPlausibility.Zzta

/-! ### The message of a sender -/

section message

/-- The content of a message, as its sender means it. -/
structure CoreMessage where
  latitude1e7 : Int32
  longitude1e7 : Int32
  speedCmS : Int16
  headingDecidegrees : Int16
  msgTimestampEpochS : UInt32
  deriving DecidableEq

/-- The bytes a sender signs: the numbers one after the other, least significant byte first, in
two's complement. -/
def CoreMessage.encode (m : CoreMessage) : Bytes 16 :=
  (((((Bytes.zeros 16).store 0 (Bytes.leBytes 4 m.latitude1e7.toInt)).store 4
    (Bytes.leBytes 4 m.longitude1e7.toInt)).store 8 (Bytes.leBytes 2 m.speedCmS.toInt)).store 10
    (Bytes.leBytes 2 m.headingDecidegrees.toInt)).store 12
    (Bytes.leBytes 4 m.msgTimestampEpochS.toNat)

/-- The message that bytes stand for. -/
def CoreMessage.decode (b : Bytes 16) : CoreMessage where
  latitude1e7 := .ofInt (b.load 0 4).leInt
  longitude1e7 := .ofInt (b.load 4 4).leInt
  speedCmS := .ofInt (b.load 8 2).leInt
  headingDecidegrees := .ofInt (b.load 10 2).leInt
  msgTimestampEpochS := .ofNat (b.load 12 4).leNat

/-- A signed word of four bytes is read back. -/
theorem ofInt_leInt_leBytes32 (x : Int32) : Int32.ofInt (Bytes.leBytes 4 x.toInt).leInt = x := by
  have hlo := x.le_toInt
  have hhi := x.toInt_lt
  rw [Bytes.leInt_leBytes (by omega) (by omega), Int32.ofInt_toInt]

/-- A signed word of two bytes is read back. -/
theorem ofInt_leInt_leBytes16 (x : Int16) : Int16.ofInt (Bytes.leBytes 2 x.toInt).leInt = x := by
  have hlo := x.le_toInt
  have hhi := x.toInt_lt
  rw [Bytes.leInt_leBytes (by omega) (by omega), Int16.ofInt_toInt]

/-- **What a sender encodes is what it meant**, negative numbers included. -/
theorem CoreMessage.decode_encode (m : CoreMessage) : decode m.encode = m := by
  have hstamp : m.msgTimestampEpochS.toNat < 256 ^ 4 := m.msgTimestampEpochS.toNat_lt
  unfold decode encode
  simp (disch := decide) only [Bytes.load_store, Bytes.load_store_of_disjoint,
    ofInt_leInt_leBytes32, ofInt_leInt_leBytes16, Bytes.leNat_leBytes hstamp, UInt32.ofNat_toNat]

/-- The message an advisory carries. -/
def CooperativeAwarenessAdvisory.message (advisory : CooperativeAwarenessAdvisory) :
    CoreMessage where
  latitude1e7 := advisory.latitude1e7
  longitude1e7 := advisory.longitude1e7
  speedCmS := advisory.speedCmS
  headingDecidegrees := advisory.headingDecidegrees
  msgTimestampEpochS := advisory.msgTimestampEpochS

/-- **The casts of the code read two's complement**: the advisory of a message carries what its
bytes stand for. -/
theorem message_advisory (bsm : V2xSignedBsm) (pubKeyDigest : Sha256Digest) :
    (bsm.advisory pubKeyDigest).message = CoreMessage.decode (bsm.payload.load 0 16) := by
  unfold V2xSignedBsm.advisory CooperativeAwarenessAdvisory.message CoreMessage.decode
  simp only [Bytes.load_load, ← Bytes.toInt_toInt32_unpackU32, ← Bytes.toInt_toInt16_unpackU16,
    ← Bytes.toNat_unpackU32_eq, Int32.ofInt_toInt, Int16.ofInt_toInt, UInt32.ofNat_toNat]

end message

/-! ### The event of a frame -/

section publication

/-- The advisory event of a frame: its signed bytes as they are, the first bytes of the digest of
its pseudonym key, the status of trust, and the time stamp as the session. -/
structure Published (f : Bytes 1472) (pubKeyDigest : Sha256Digest) (event : SoaEvent) : Prop where
  serviceId : event.serviceId = 0x1900
  eventId : event.eventId = 0x1901
  payloadLen : event.payloadLen = 25
  signed : event.payload.load 0 16 = f.load 2 16
  correlation : event.payload.load 16 8 = pubKeyDigest.load 0 8
  trust : event.payload.load 24 1 = #v[0]
  sessionId : event.sessionId.toNat = (f.load 14 4).leNat

/-- A reply is that of a hash that computes the given function, if it succeeds. -/
def HashedBy (sha256 : List UInt8 → Sha256Digest) : (q : PlatformQuery) → PlatformReply q → Prop
  | .computeSha256 data, reply => reply.1 = .kOk → reply.2 = sha256 data
  | _, _ => True

/-- The part of an event that an advisory writes. -/
structure SameAdvisory (event event' : SoaEvent) : Prop where
  serviceId : event.serviceId = event'.serviceId
  eventId : event.eventId = event'.eventId
  sessionId : event.sessionId = event'.sessionId
  payloadLen : event.payloadLen = event'.payloadLen
  payload : event.payload.load 0 25 = event'.payload.load 0 25

variable {f f' : Bytes 1472} {pubKeyDigest : Sha256Digest} {event event' : SoaEvent}
  {adapter : V2xNetworkAdapter} {frame : WireFrame}

/-- **The casts cancel**: the first bytes published are those of the message. -/
theorem load_packAdvisory_message (bsm : V2xSignedBsm) (pubKeyDigest : Sha256Digest)
    (event : SoaEvent) :
    (packAdvisory (bsm.advisory pubKeyDigest) event).payload.load 0 16 =
      bsm.payload.load 0 16 := by
  -- field by field: latitude, longitude, speed, heading, time stamp
  refine Bytes.ext_load 4 12 rfl ?_ (Bytes.ext_load 4 8 rfl ?_ (Bytes.ext_load 2 6 rfl ?_
    (Bytes.ext_load 2 4 rfl ?_ ?_))) <;>
  simp (disch := decide) only [packAdvisory, V2xSignedBsm.advisory, Bytes.load_load,
    Bytes.load_store, Bytes.load_store_of_disjoint, UInt32.toUInt32_toInt32,
    UInt16.toUInt16_toInt16, Bytes.packU32_unpackU32, Bytes.packU16_unpackU16]

/-- What is packed is published. -/
theorem published_packAdvisory (f : Bytes 1472) (pubKeyDigest : Sha256Digest) (event : SoaEvent) :
    Published f pubKeyDigest (packAdvisory ((bsmOf f).advisory pubKeyDigest) event) where
  serviceId := rfl
  eventId := rfl
  payloadLen := rfl
  signed := by
    rw [load_packAdvisory_message]
    exact Bytes.load_load f (by decide) (by decide)
  correlation := by
    simp (disch := decide) only [packAdvisory, V2xSignedBsm.advisory, Bytes.load_store,
      Bytes.load_store_of_disjoint]
  trust := by
    simp only [packAdvisory, V2xSignedBsm.advisory, Bytes.load_store]
    rfl
  sessionId := by
    rw [← Bytes.toNat_unpackU32_eq]
    show (Bytes.unpackU32 (((bsmOf f).payload).load 12 4)).toNat = _
    unfold bsmOf
    rw [Bytes.load_load]

/-- Events published for the same signed bytes and the same digest are the same advisory. -/
theorem Published.sameAdvisory (h : Published f pubKeyDigest event)
    (h' : Published f' pubKeyDigest event') (hsigned : f.load 2 16 = f'.load 2 16) :
    SameAdvisory event event' where
  serviceId := h.serviceId.trans h'.serviceId.symm
  eventId := h.eventId.trans h'.eventId.symm
  sessionId := by
    have hstamp := congrArg (fun b : Bytes 16 => (b.load 12 4).leNat) hsigned
    simp only [Bytes.load_load] at hstamp
    exact UInt32.toNat_inj.mp (h.sessionId.trans (hstamp.trans h'.sessionId.symm))
  payloadLen := h.payloadLen.trans h'.payloadLen.symm
  payload := by
    refine Bytes.ext_load 16 9 rfl ?_ (Bytes.ext_load 8 1 rfl ?_ ?_)
    · simp only [Bytes.load_load]
      exact h.signed.trans (hsigned.trans h'.signed.symm)
    · simp only [Bytes.load_load]
      exact h.correlation.trans h'.correlation.symm
    · simp only [Bytes.load_load]
      exact h.trust.trans h'.trust.symm

/-- A run that succeeds hashed the key, and publishes its digest. -/
theorem packed_of_ok {σ : Type} {platform : Platform σ} {s : σ}
    (hok : ((adapter.deserialise frame event).run platform s).value.result = .ok) :
    let ran := (adapter.deserialise frame event).run platform s
    ∃ pubKeyDigest, (⟨.computeSha256 (frame.data.load 194 33).toList, (.kOk, pubKeyDigest)⟩ :
        PlatformCall) ∈ ran.calls ∧
      ran.value.event = packAdvisory ((bsmOf frame.data).advisory pubKeyDigest) event := by
  intro ran
  obtain ⟨-, -, nowEpochS, r, palCalls, hcalls, ⟨hall, hpal⟩, hevent⟩ := passes_of_ok hok
  refine ⟨r.keyHash.2, ?_, hevent⟩
  -- the last stage is the hash of the key
  have hlast : ⟨some ⟨.computeSha256 (frame.data.load 194 33).toList, r.keyHash⟩,
      r.keyHash.1 = .kOk, .kCryptoError⟩ ∈
        frameStages adapter.verifier.trustedRootKey frame.data nowEpochS r := by
    simp [frameStages]
  have hkey : r.keyHash = (.kOk, r.keyHash.2) := Prod.ext (hall _ hlast) rfl
  show _ ∈ ((adapter.deserialise frame event).run platform s).calls
  rw [hcalls, ← hkey, hpal]
  exact List.mem_cons_of_mem _ (mem_callsOf.mpr ⟨_, hlast, rfl⟩)

/-- **What is published is what was signed.** Whatever the platform and the event before are, a
frame that is accepted is published as its bytes and the digest of its key say. A message that its
sender encoded into the signed bytes is the one in the advisory, and the one read from the event.
Any accepted frame with the same signed bytes and the same key is published as the same advisory,
whatever its other bytes, its adapter and its platform are, if both platforms hash alike. -/
theorem published_of_ok {σ : Type} {platform : Platform σ} {s : σ}
    (hok : ((adapter.deserialise frame event).run platform s).value.result = .ok) :
    let ran := (adapter.deserialise frame event).run platform s
    (∃ pubKeyDigest, (⟨.computeSha256 (frame.data.load 194 33).toList, (.kOk, pubKeyDigest)⟩ :
        PlatformCall) ∈ ran.calls ∧ Published frame.data pubKeyDigest ran.value.event) ∧
      (∀ m : CoreMessage, frame.data.load 2 16 = m.encode →
        (∃ advisory, advisory.message = m ∧ ran.value.event = packAdvisory advisory event) ∧
          CoreMessage.decode (ran.value.event.payload.load 0 16) = m) ∧
      ∀ {σ' : Type} (platform' : Platform σ') (s' : σ') (adapter' : V2xNetworkAdapter)
        (frame' : WireFrame) (event' : SoaEvent) (sha256 : List UInt8 → Sha256Digest),
        let ran' := (adapter'.deserialise frame' event').run platform' s'
        (∀ s q, HashedBy sha256 q (platform.answer s q).1) →
        (∀ s q, HashedBy sha256 q (platform'.answer s q).1) →
        ran'.value.result = .ok →
        frame'.data.load 2 16 = frame.data.load 2 16 →
        frame'.data.load 194 33 = frame.data.load 194 33 →
          SameAdvisory ran.value.event ran'.value.event := by
  intro ran
  obtain ⟨pubKeyDigest, hcall, hevent⟩ := packed_of_ok hok
  have hpublished : Published frame.data pubKeyDigest ran.value.event := by
    show Published _ _ ((adapter.deserialise frame event).run platform s).value.event
    rw [hevent]
    exact published_packAdvisory frame.data pubKeyDigest event
  refine ⟨⟨pubKeyDigest, hcall, hpublished⟩, ?_, ?_⟩
  · intro m hm
    refine ⟨⟨_, ?_, hevent⟩, ?_⟩
    · rw [message_advisory, ← CoreMessage.decode_encode m, ← hm]
      exact congrArg CoreMessage.decode (Bytes.load_load frame.data (by decide) (by decide))
    · rw [hpublished.signed, hm, CoreMessage.decode_encode]
  · intro σ' platform' s' adapter' frame' event' sha256 ran' hsha hsha' hok' hsigned hkey
    obtain ⟨pubKeyDigest', hcall', hevent'⟩ := packed_of_ok hok'
    -- both digests are the hash of the one key
    have hdigest : pubKeyDigest = sha256 (frame.data.load 194 33).toList :=
      OracleProg.run_calls_of_answer hsha _ s _ hcall rfl
    have hdigest' : pubKeyDigest' = sha256 (frame'.data.load 194 33).toList :=
      OracleProg.run_calls_of_answer hsha' _ s' _ hcall' rfl
    rw [hkey, ← hdigest] at hdigest'
    apply hpublished.sameAdvisory _ hsigned.symm
    show Published _ _ ((adapter'.deserialise frame' event').run platform' s').value.event
    rw [hevent', hdigest']
    exact published_packAdvisory frame'.data pubKeyDigest event'

/-- The plain frame is accepted where every call succeeds. -/
theorem result_plainFrame (event : SoaEvent) :
    ((initialisedAdapter.deserialise plainFrame event).run obligingPlatform ⟨⟩).value.result =
      .ok :=
  deserialise_ok_of_acceptedFrame obligingPlatform_answered rfl acceptedFrame_plainFrame event ⟨⟩

/-- The obliging platform hashes everything to zeros. -/
theorem obligingPlatform_hashedBy (s : PUnit) (q : PlatformQuery) :
    HashedBy (fun _ => Bytes.zeros 32) q (obligingPlatform.answer s q).1 := by
  cases q with
  | computeSha256 data => exact fun _ => rfl
  | _ => trivial

/-- `published_of_ok` for the plain frame, published into two different events. -/
theorem published_plainFrame :
    let ran := (initialisedAdapter.deserialise plainFrame {}).run obligingPlatform ⟨⟩
    let ran' := (initialisedAdapter.deserialise plainFrame { sessionId := 7 }).run
      obligingPlatform ⟨⟩
    (∃ pubKeyDigest, Published plainFrame.data pubKeyDigest ran.value.event) ∧
      SameAdvisory ran.value.event ran'.value.event := by
  obtain ⟨⟨pubKeyDigest, -, hpublished⟩, -, hsame⟩ := published_of_ok (result_plainFrame {})
  exact ⟨⟨pubKeyDigest, hpublished⟩, hsame obligingPlatform ⟨⟩ initialisedAdapter plainFrame
    { sessionId := 7 } (fun _ => Bytes.zeros 32) obligingPlatform_hashedBy
    obligingPlatform_hashedBy (result_plainFrame _) rfl rfl⟩

end publication

end SotifPlausibility.V2x
