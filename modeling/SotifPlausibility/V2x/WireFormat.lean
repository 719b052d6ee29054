import SotifPlausibility.V2x.Redistribution
import Mathlib.Data.List.SplitLengths

/-!
# The wire format

The eleven fields of a message follow one another in a frame without a gap. The format is written
down twice: as a packing, the way a sender fills a frame, and as the list of the fields in order.

* `wireFields`, `wireWidths` — the fields of a message, and their widths.
* `packWireFrame` — the packing.
* `wireFields_of_unpack` — what `UnpackWireFrame` does is to cut the received bytes at the widths.
* `unpackWireFrame_packWireFrame`, `packWireFrame_of_unpack` — unpacking and packing are inverse.
* `unpackWireFrame_bijective` — which frames are accepted, and the bijection.

Source: `V2xNetworkAdapter.cpp`, `V2xNetworkAdapter::UnpackWireFrame`;
`test_V2xNetworkAdapter.cpp`, `PackCertWire` and `MakeValidWireFrame`.
-/

namespace SotifPlausibility.V2x

open SotifPlausibility.Found

/-! ### Packing -/

/-- The bytes of a certificate on the wire.
Source: `test_V2xNetworkAdapter.cpp`, `PackCertWire`. -/
def packCertWire (cert : V2xCertificate) : Bytes 105 :=
  ((((Bytes.zeros 105).store 0 cert.subjectPublicKey).store 33
    (Bytes.packU32 cert.validFromEpochS)).store 37 (Bytes.packU32 cert.validUntilEpochS)).store 41
    cert.issuerSignature

/-- Packs a message into a frame whose buffer held `prior`.
Source: `test_V2xNetworkAdapter.cpp`, `MakeValidWireFrame`. -/
def packWireFrame (bsm : V2xSignedBsm) (prior : Bytes 1472) : WireFrame where
  data :=
    ((((prior.store 0 (Bytes.packU16 bsm.payloadLen)).store 2 bsm.payload).store 194
      (packCertWire bsm.pseudonymCert)).store 299 (packCertWire bsm.intermediateCert)).store 404
      bsm.bsmSignature
  length := kV2xWireFrameBytes

/-- The fields of a certificate, in the order of the wire. -/
def certFields (cert : V2xCertificate) : List (List UInt8) :=
  [cert.subjectPublicKey.toList, (Bytes.packU32 cert.validFromEpochS).toList,
    (Bytes.packU32 cert.validUntilEpochS).toList, cert.issuerSignature.toList]

/-- The fields of a message, in the order of the wire. -/
def wireFields (bsm : V2xSignedBsm) : List (List UInt8) :=
  [(Bytes.packU16 bsm.payloadLen).toList, bsm.payload.toList] ++ certFields bsm.pseudonymCert ++
    certFields bsm.intermediateCert ++ [bsm.bsmSignature.toList]

/-- The widths of the fields. -/
def wireWidths : List ℕ := [2, 192, 33, 4, 4, 64, 33, 4, 4, 64, 64]

/-- The fields fill the frame. -/
theorem sum_wireWidths : wireWidths.sum = 468 := rfl

/-- Each field has its width. -/
theorem map_length_wireFields (bsm : V2xSignedBsm) :
    (wireFields bsm).map List.length = wireWidths := by
  simp [wireFields, certFields, wireWidths]

/-! ### Certificates -/

section cert

/-- Unpacking a certificate cuts its bytes at the widths of its fields. -/
theorem certFields_unpackCert (bytes : Bytes 105) :
    certFields (unpackCert bytes) = [33, 4, 4, 64].splitLengths bytes.toList := by
  simp only [certFields, unpackCert, Bytes.packU32_unpackU32, Bytes.toList_load,
    List.splitLengths_cons, List.splitLengths_nil, List.drop_drop, List.drop_zero]

/-- Different bytes are different certificates. -/
theorem unpackCert_injective {bytes bytes' : Bytes 105}
    (h : unpackCert bytes = unpackCert bytes') : bytes = bytes' := by
  have hsplit : ∀ b : Bytes 105, (certFields (unpackCert b)).flatten = b.toList := by
    intro b
    rw [certFields_unpackCert]
    exact List.flatten_splitLengths _ _ (by simp)
  apply Vector.toList_inj.mp
  rw [← hsplit bytes, h, hsplit bytes']

/-- Packing a certificate loses nothing. -/
theorem unpackCert_packCertWire (cert : V2xCertificate) :
    unpackCert (packCertWire cert) = cert := by
  unfold unpackCert packCertWire
  simp (disch := decide) only [Bytes.load_store, Bytes.load_store_of_disjoint,
    Bytes.unpackU32_packU32]

/-- The bytes of the certificate that 105 bytes stand for are these bytes. -/
theorem packCertWire_unpackCert (bytes : Bytes 105) : packCertWire (unpackCert bytes) = bytes :=
  unpackCert_injective (unpackCert_packCertWire _)

end cert

/-! ### Frames -/

section frame

variable {frame : WireFrame} {bsm : V2xSignedBsm}

/-- All bytes of a frame are received. -/
theorem length_received (hlen : frame.length = 468) : frame.received.length = 468 := by
  simp [WireFrame.received, hlen]

/-- A field within the received bytes. -/
theorem take_drop_received (hlen : frame.length = 468) {off k : ℕ} (h : off + k ≤ 468) :
    (frame.received.drop off).take k = (frame.data.load off k (by omega)).toList := by
  have htoNat : (468 : UInt16).toNat = 468 := rfl
  have hmin : min k (468 - off) = k := by omega
  rw [WireFrame.received, hlen, htoNat, List.drop_take, List.take_take, hmin, Bytes.toList_load]

/-- **The unpacker cuts the received bytes at the widths of the fields.** -/
theorem wireFields_of_unpack (h : unpackWireFrame frame = some bsm) :
    wireFields bsm = wireWidths.splitLengths frame.received := by
  obtain ⟨hlen, -, rfl⟩ := unpackWireFrame_eq_some_iff.mp h
  have hfst : frame.received.take 2 = (frame.data.load 0 2).toList :=
    take_drop_received hlen (show 0 + 2 ≤ 468 by decide)
  simp (disch := decide) only [wireWidths, List.splitLengths_cons, List.splitLengths_nil,
    List.drop_drop, take_drop_received hlen, hfst]
  simp only [wireFields, certFields, unpackCert, Bytes.packU16_unpackU16,
    Bytes.packU32_unpackU32, Bytes.load_load]
  rfl

/-- The received bytes are the fields, one after the other. -/
theorem flatten_wireFields_of_unpack (h : unpackWireFrame frame = some bsm) :
    (wireFields bsm).flatten = frame.received := by
  rw [wireFields_of_unpack h]
  apply List.flatten_splitLengths
  rw [length_received (unpackWireFrame_eq_some_iff.mp h).1, sum_wireWidths]

/-- **A packed message is recovered**, whatever the buffer held before. -/
theorem unpackWireFrame_packWireFrame (hpayload : bsm.payloadLen.toNat ≤ 192)
    (prior : Bytes 1472) : unpackWireFrame (packWireFrame bsm prior) = some bsm := by
  rw [unpackWireFrame_eq_some_iff]
  unfold packWireFrame
  simp (disch := decide) only [Bytes.load_store, Bytes.load_store_of_disjoint,
    Bytes.unpackU16_packU16, unpackCert_packCertWire]
  exact ⟨rfl, hpayload, trivial⟩

/-- **Packing what was unpacked over the frame changes nothing.** -/
theorem packWireFrame_of_unpack (h : unpackWireFrame frame = some bsm) :
    packWireFrame bsm frame.data = frame := by
  obtain ⟨hlen, -, rfl⟩ := unpackWireFrame_eq_some_iff.mp h
  unfold packWireFrame
  simp only [Bytes.packU16_unpackU16, packCertWire_unpackCert, Bytes.store_load]
  exact congrArg (WireFrame.mk frame.data) hlen.symm

/-- **The wire unpacker is a bijection** between the received bytes of the frames it accepts and
the messages whose payload length is at most 192. A frame is accepted exactly when its length is 468
and its first two bytes, least significant first, are at most 192. A message is recovered from its
packing, into any buffer, and the packing is its fields one after the other; packing what a frame
unpacked to gives the frame back. The fields have fixed widths and put together are the received
bytes, so each byte lies in exactly one. Frames that unpack to one message agree on all bytes. -/
theorem unpackWireFrame_bijective :
    (∀ frame : WireFrame, (unpackWireFrame frame).isSome = true ↔
      frame.length = 468 ∧ (frame.data.load 0 2).leNat ≤ 192) ∧
    (∀ (bsm : V2xSignedBsm) (prior : Bytes 1472), bsm.payloadLen.toNat ≤ 192 →
      unpackWireFrame (packWireFrame bsm prior) = some bsm ∧
        (packWireFrame bsm prior).received = (wireFields bsm).flatten) ∧
    (∀ (frame : WireFrame) (bsm : V2xSignedBsm), unpackWireFrame frame = some bsm →
      bsm.payloadLen.toNat ≤ 192 ∧ packWireFrame bsm frame.data = frame ∧
        frame.received = (wireFields bsm).flatten ∧
        (wireFields bsm).map List.length = [2, 192, 33, 4, 4, 64, 33, 4, 4, 64, 64]) ∧
    ∀ (frame frame' : WireFrame) (bsm : V2xSignedBsm), unpackWireFrame frame = some bsm →
      unpackWireFrame frame' = some bsm →
      frame.received.length = 468 ∧ frame.received = frame'.received := by
  refine ⟨?_, ?_, ?_, ?_⟩
  · intro frame
    rw [Option.isSome_iff_exists, ← Bytes.toNat_unpackU16_eq]
    constructor
    · rintro ⟨bsm, h⟩
      obtain ⟨hlen, hpayload, -⟩ := unpackWireFrame_eq_some_iff.mp h
      exact ⟨hlen, hpayload⟩
    · rintro ⟨hlen, hpayload⟩
      exact ⟨_, unpackWireFrame_eq_some_iff.mpr ⟨hlen, hpayload, rfl⟩⟩
  · intro bsm prior hpayload
    have hunpack := unpackWireFrame_packWireFrame hpayload prior
    exact ⟨hunpack, (flatten_wireFields_of_unpack hunpack).symm⟩
  · intro frame bsm h
    obtain ⟨hlen, hpayload, hbsm⟩ := unpackWireFrame_eq_some_iff.mp h
    refine ⟨?_, packWireFrame_of_unpack h, (flatten_wireFields_of_unpack h).symm,
      map_length_wireFields bsm⟩
    rw [hbsm]
    exact hpayload
  · intro frame frame' bsm h h'
    refine ⟨length_received (unpackWireFrame_eq_some_iff.mp h).1, ?_⟩
    rw [← flatten_wireFields_of_unpack h, flatten_wireFields_of_unpack h']

/-- `unpackWireFrame_bijective` for the message of the plain frame, packed over the plain frame. -/
theorem unpackWireFrame_bijective_plainFrame :
    let bsm := bsmOf plainFrame.data
    let frame := packWireFrame bsm plainFrame.data
    unpackWireFrame frame = some bsm ∧ packWireFrame bsm frame.data = frame ∧
      frame.received.length = 468 := by
  have hunpack := (unpackWireFrame_bijective.2.1 (bsmOf plainFrame.data) plainFrame.data
    (by simp [bsmOf])).1
  exact ⟨hunpack, (unpackWireFrame_bijective.2.2.1 _ _ hunpack).2.1,
    (unpackWireFrame_bijective.2.2.2 _ _ _ hunpack hunpack).1⟩

end frame

end SotifPlausibility.V2x
