import SotifPlausibility.Found.ShiftRegister
import SotifPlausibility.Soa.IpcBridge

/-!
# What the end-to-end checksum detects

The bridge computes its CRC-16 a byte at a time from a table; a slot with its checksum is then a
codeword of a shift register, and a corrupted slot passes the check exactly when the bits that were
flipped are a codeword themselves.

* `crcStep_eq`, `computeE2eCrc_eq` — the table-driven checksum is the bitwise one, a byte's lowest
  bit first. The feedback word is 0x8005 as it stands, while the register shifts right: this is not
  the reflected polynomial, so its strength is derived here and not taken from the standard.
* `IpcSlot.bits` — the 1184 bits of a slot in the order the checksum takes them; `flips` — the
  difference of two slots. `verifyE2e_of_not_isCodeword` is the rule the results share.
* `flips_detected` — one, two, three and any odd number of flipped bits; `burst_detected` — any
  stretch of 16 bits; `four_flips_undetected` — no more than that.

Source: `IpcBridge.cpp`, `GenerateCrcEntry`, `ComputeE2eCrc`, `VerifyE2e`.
-/

namespace SotifPlausibility.Soa

open SotifPlausibility.Found SotifPlausibility.Found.ShiftRegister

/-! ### The table -/

/-- The feedback word of the table. -/
def kCrcPolynomial : BitVec 16 := 0x8005#16

/-- The bits of bytes, each with its lowest first. -/
def bytesBits (data : List UInt8) : List Bool := data.flatMap fun byte => unpack byte.toBitVec

/-- One round of the loop that fills the table is a shift. -/
theorem crcRound_toBitVec (crc : UInt16) :
    (if crc &&& 0x0001 ≠ 0 then (crc >>> 1) ^^^ 0x8005 else crc >>> 1).toBitVec =
      step kCrcPolynomial crc.toBitVec := by
  have hbit : crc &&& 0x0001 ≠ 0 ↔ crc.toBitVec.getLsbD 0 = true := by
    have hmask : (0x0001 : UInt16).toBitVec = BitVec.twoPow 16 0 := rfl
    rw [ne_eq, ← UInt16.toBitVec_inj, UInt16.toBitVec_and, hmask, BitVec.and_twoPow]
    cases crc.toBitVec.getLsbD 0 <;> decide
  unfold step
  by_cases h : crc &&& 0x0001 ≠ 0
  · rw [if_pos h, if_pos (hbit.mp h)]
    rfl
  · rw [if_neg h, if_neg (mt hbit.mpr h)]
    rfl

/-- An entry of the table is eight steps of the register from the index. -/
theorem generateCrcEntry_toBitVec (idx : UInt8) :
    (generateCrcEntry idx).toBitVec = (step kCrcPolynomial)^[8] (idx.toBitVec.setWidth 16) := by
  have hiterate : generateCrcEntry idx =
      (fun crc : UInt16 => if crc &&& 0x0001 ≠ 0 then (crc >>> 1) ^^^ 0x8005 else crc >>> 1)^[8]
        idx.toUInt16 := by
    unfold generateCrcEntry
    rw [List.foldl_const, List.length_range]
  have hsemi : Function.Semiconj UInt16.toBitVec
      (fun crc : UInt16 => if crc &&& 0x0001 ≠ 0 then (crc >>> 1) ^^^ 0x8005 else crc >>> 1)
      (step kCrcPolynomial) := crcRound_toBitVec
  rw [hiterate, (hsemi.iterate_right 8).eq]
  rfl

/-- The table holds the generated entries. -/
theorem getElem_kCrcTable (idx : UInt8) :
    getElem kCrcTable idx.toNat idx.toNat_lt = generateCrcEntry idx := by
  simp [kCrcTable]

/-- **A byte from the table is eight bits by shifting.** -/
theorem crcStep_eq (crc : UInt16) (byte : UInt8) :
    (crcStep crc byte).toBitVec =
      remainder kCrcPolynomial crc.toBitVec (unpack byte.toBitVec) := by
  have hhigh : (crc.toBitVec ^^^ byte.toBitVec.setWidth 16) >>> 8 = crc.toBitVec >>> 8 := by
    apply BitVec.eq_of_getLsbD_eq
    intro i hi
    simp
  have hlow : ((crc ^^^ byte.toUInt16).toUInt8).toBitVec =
      (crc.toBitVec ^^^ byte.toBitVec.setWidth 16).setWidth 8 := rfl
  have hlen : (unpack byte.toBitVec).length ≤ 16 := by simp
  rw [remainder_eq_iterate_pack _ hlen, length_unpack, pack_unpack, iterate_step_low, hhigh,
    ← hlow, ← generateCrcEntry_toBitVec, ← getElem_kCrcTable]
  rfl

/-- **The checksum is the remainder of the bits.** -/
theorem computeE2eCrc_eq (data : List UInt8) :
    (computeE2eCrc (some data)).toBitVec = remainder kCrcPolynomial 0#16 (bytesBits data) := by
  have hfold : ∀ crc : UInt16, (data.foldl crcStep crc).toBitVec =
      remainder kCrcPolynomial crc.toBitVec (bytesBits data) := by
    induction data with
    | nil => exact fun _ => rfl
    | cons byte data ih =>
        intro crc
        rw [List.foldl_cons, ih, crcStep_eq, ← remainder_append]
        rfl
  unfold computeE2eCrc
  exact hfold 0

/-! ### Slots as codewords -/

/-- A byte has eight bits. -/
@[simp] theorem length_bytesBits (data : List UInt8) :
    (bytesBits data).length = 8 * data.length := by
  induction data with
  | nil => rfl
  | cons byte data ih =>
      rw [bytesBits, List.flatMap_cons, List.length_append, length_unpack, List.length_cons]
      exact (congrArg (8 + ·) ih).trans (by omega)

/-- Different bytes have different bits. -/
theorem bytesBits_injective {data data' : List UInt8} (hlen : data.length = data'.length)
    (h : bytesBits data = bytesBits data') : data = data' := by
  induction data generalizing data' with
  | nil => exact (List.eq_nil_of_length_eq_zero hlen.symm).symm
  | cons byte data ih =>
      obtain ⟨byte', data', rfl⟩ := List.exists_cons_of_length_eq_add_one hlen.symm
      obtain ⟨hhead, htail⟩ := List.append_inj h (by simp)
      rw [UInt8.toBitVec_inj.mp (unpack_injective hhead), ih (Nat.succ.inj hlen) htail]

/-- The bits of bytes in two parts. -/
theorem bytesBits_append (data data' : List UInt8) :
    bytesBits (data ++ data') = bytesBits data ++ bytesBits data' :=
  List.flatMap_append

/-- The bits of zeros. -/
theorem bytesBits_zeros (n : ℕ) :
    bytesBits (List.replicate n 0) = List.replicate (8 * n) false := by
  have hzero : unpack (0 : UInt8).toBitVec = List.replicate 8 false := by decide
  unfold bytesBits
  rw [List.flatMap_replicate, hzero, List.flatten_replicate_replicate, Nat.mul_comm]

/-- The bits in which bytes differ are those of their exclusive or. -/
theorem zipWith_bytesBits (data data' : List UInt8) :
    List.zipWith (· ^^ ·) (bytesBits data) (bytesBits data') =
      bytesBits (List.zipWith (· ^^^ ·) data data') := by
  induction data generalizing data' with
  | nil => rfl
  | cons byte data ih =>
      cases data' with
      | nil => simp [bytesBits]
      | cons byte' data' =>
          have hzip := ih data'
          unfold bytesBits at hzip ⊢
          rw [List.flatMap_cons, List.flatMap_cons, List.zipWith_append (by simp), hzip,
            ← unpack_xor]
          rfl

namespace IpcSlot

/-- The bits of a slot in the order the checksum takes them, its own last. -/
def bits (slot : IpcSlot) : List Bool :=
  bytesBits slot.protectedBytes ++ unpack slot.e2eHeader.crc.toBitVec

/-- The bits in which two slots differ. -/
def flips (slot slot' : IpcSlot) : List Bool := List.zipWith (· ^^ ·) slot.bits slot'.bits

variable {slot slot' : IpcSlot}

/-- The checksum covers 146 bytes. -/
@[simp] theorem length_protectedBytes (slot : IpcSlot) : slot.protectedBytes.length = 146 := by
  simp [protectedBytes]

/-- With the checksum a slot has 148 bytes. -/
@[simp] theorem length_bits (slot : IpcSlot) : slot.bits.length = 1184 := by
  simp [bits]

/-- The flips of two slots, by their bytes and their checksums. -/
theorem flips_eq (slot slot' : IpcSlot) :
    slot.flips slot' =
      bytesBits (List.zipWith (· ^^^ ·) slot.protectedBytes slot'.protectedBytes) ++
        unpack (slot.e2eHeader.crc ^^^ slot'.e2eHeader.crc).toBitVec := by
  rw [flips, bits, bits, List.zipWith_append (by simp), zipWith_bytesBits, UInt16.toBitVec_xor,
    unpack_xor]

/-- The checksum of a slot is right exactly when the slot is a codeword. -/
theorem isCodeword_bits_iff (slot : IpcSlot) :
    IsCodeword kCrcPolynomial slot.bits ↔
      computeE2eCrc (some slot.protectedBytes) = slot.e2eHeader.crc := by
  rw [bits, isCodeword_append_iff rfl _ (length_unpack _), ← computeE2eCrc_eq, pack_unpack,
    BitVec.setWidth_eq, UInt16.toBitVec_inj]

/-- **A slot is not taken when the bits that were flipped are no codeword**: the check fails, for
whatever counter the receiver expects. -/
theorem verifyE2e_of_not_isCodeword {counter : UInt8} (hok : verifyE2e slot counter = .ok)
    (hflips : ¬ IsCodeword kCrcPolynomial (slot.flips slot')) (expected : UInt8) :
    verifyE2e slot' expected = .err .kChecksumMismatch := by
  have hvalid : computeE2eCrc (some slot.protectedBytes) = slot.e2eHeader.crc := by
    by_contra hne
    rw [verifyE2e, if_pos hne] at hok
    exact absurd hok (by simp)
  have hinvalid : ¬ IsCodeword kCrcPolynomial slot'.bits := by
    intro hcodeword
    apply hflips
    rw [flips, isCodeword_zipWith_xor_iff (by simp)]
    exact ((isCodeword_bits_iff slot).mpr hvalid).trans hcodeword.symm
  rw [verifyE2e, if_pos (mt (isCodeword_bits_iff slot').mpr hinvalid)]

/-- Flips that are a codeword change nothing about the checksum. -/
theorem crc_ok_iff_of_isCodeword (hflips : IsCodeword kCrcPolynomial (slot.flips slot')) :
    computeE2eCrc (some slot.protectedBytes) = slot.e2eHeader.crc ↔
      computeE2eCrc (some slot'.protectedBytes) = slot'.e2eHeader.crc := by
  rw [flips, isCodeword_zipWith_xor_iff (by simp)] at hflips
  rw [← isCodeword_bits_iff, ← isCodeword_bits_iff, IsCodeword, IsCodeword, hflips]

/-- A slot is its protected bytes and its checksum. -/
theorem protectedBytes_injective (h : slot.protectedBytes = slot'.protectedBytes)
    (hcrc : slot.e2eHeader.crc = slot'.e2eHeader.crc) : slot = slot' := by
  have hword16 : ∀ {x y : UInt16}, (Bytes.packU16 x).toList = (Bytes.packU16 y).toList → x = y := by
    intro x y hxy
    rw [← Bytes.unpackU16_packU16 x, Vector.toList_inj.mp hxy, Bytes.unpackU16_packU16]
  have hword32 : ∀ {x y : UInt32}, (Bytes.packU32 x).toList = (Bytes.packU32 y).toList → x = y := by
    intro x y hxy
    rw [← Bytes.unpackU32_packU32 x, Vector.toList_inj.mp hxy, Bytes.unpackU32_packU32]
  -- the fields are taken off from the back, where their lengths are known
  obtain ⟨h, hpayload⟩ := List.append_inj' h (by simp)
  obtain ⟨h, hreserved⟩ := List.append_inj' h (by simp)
  obtain ⟨h, hlen⟩ := List.append_inj' h rfl
  obtain ⟨h, hsession⟩ := List.append_inj' h rfl
  obtain ⟨h, hevent⟩ := List.append_inj' h rfl
  obtain ⟨h, hservice⟩ := List.append_inj' h rfl
  obtain ⟨h, hzero⟩ := List.append_inj' h rfl
  obtain ⟨h, hlength⟩ := List.append_inj' h rfl
  rcases slot with ⟨⟨_, _, _, _, _⟩, _, _, _, _, _, _⟩
  rcases slot' with ⟨⟨_, _, _, _, _⟩, _, _, _, _, _, _⟩
  simp only [List.cons.injEq, and_true] at h hlen
  simp only [IpcSlot.mk.injEq, E2eProfile5Header.mk.injEq]
  exact ⟨⟨hcrc, h.1, h.2, hword16 hlength, hword16 hzero⟩, hword16 hservice, hword16 hevent,
    hword32 hsession, hlen, Vector.toList_inj.mp hreserved, Vector.toList_inj.mp hpayload⟩

/-- Slots that differ differ in a bit. -/
theorem count_flips_pos (hne : slot ≠ slot') : 0 < (slot.flips slot').count true := by
  apply Nat.pos_of_ne_zero
  intro hzero
  apply hne
  have hagree : slot.bits = slot'.bits := by
    apply List.ext_getElem (by simp)
    intro i hi hi'
    have hlen : i < (slot.flips slot').length := by simpa [flips] using hi
    have hnot := List.count_eq_zero.mp hzero
    have hbit : (slot.flips slot')[i] ≠ true := fun htrue => hnot (htrue ▸ List.getElem_mem hlen)
    simpa [flips] using hbit
  obtain ⟨hprotected, hcrc⟩ := List.append_inj hagree (by simp)
  exact protectedBytes_injective (bytesBits_injective (by simp) hprotected)
    (UInt16.toBitVec_inj.mp (unpack_injective hcrc))

end IpcSlot

section detection

variable {slot slot' : IpcSlot} {counter : UInt8}

/-- **Two valid slots differ in an even number of bits, and in four at least**: fewer flipped bits,
and every odd number, are detected wherever they are in a slot, its header and checksum included. -/
theorem flips_detected (hok : verifyE2e slot counter = .ok) (hne : slot ≠ slot')
    (hflips : (slot.flips slot').count true ≤ 3 ∨ (slot.flips slot').count true % 2 = 1)
    (expected : UInt8) : verifyE2e slot' expected = .err .kChecksumMismatch := by
  have hpos := IpcSlot.count_flips_pos hne
  apply IpcSlot.verifyE2e_of_not_isCodeword hok
  by_cases hodd : (slot.flips slot').count true % 2 = 1
  · exact not_isCodeword_of_odd (by decide) hodd
  · obtain ⟨m, d, n, hsplit⟩ := exists_pair_of_count_eq_two (slot.flips slot') (by omega)
    have hlen := congrArg List.length hsplit
    -- the register needs more steps to come back to a one than a slot has bits
    have havoids : avoids kCrcPolynomial 1#16 1184 1#16 = true := by decide +kernel
    rw [hsplit, isCodeword_pad_iff rfl]
    apply not_isCodeword_pair rfl
    apply iterate_ne_of_avoids havoids
    simp [IpcSlot.flips] at hlen
    omega

/-- An event with four bytes of payload. -/
def speedEvent : SoaEvent where
  serviceId := 0x1001
  eventId := 0x8001
  sessionId := 7
  payloadLen := 4
  payload := (Bytes.zeros 256).store 0 (#v[0x12, 0x34, 0x56, 0x78] : Bytes 4)

/-- The slot in which it is sent under the counter 5. -/
def speedSlot : IpcSlot := IpcBridge.stamp 5 speedEvent

/-- It passes the check for that counter. -/
theorem verifyE2e_speedSlot : verifyE2e speedSlot 5 = .ok :=
  (IpcBridge.verifyE2e_stamp_iff 5 5).mpr rfl

/-- `flips_detected` for one bit of the payload's length. -/
theorem flips_detected_payloadLen :
    verifyE2e { speedSlot with payloadLen := 5 } 5 = .err .kChecksumMismatch := by
  have hne : speedSlot ≠ { speedSlot with payloadLen := 5 } :=
    fun h => absurd (congrArg IpcSlot.payloadLen h) (by decide)
  have hflips : (speedSlot.flips { speedSlot with payloadLen := 5 }).count true ≤ 3 := by
    decide +kernel
  exact flips_detected verifyE2e_speedSlot hne (Or.inl hflips) 5

/-- **Every burst of up to 16 bits is detected.** -/
theorem burst_detected (hok : verifyE2e slot counter = .ok) {m n : ℕ} {burst : List Bool}
    (hflips : slot.flips slot' = List.replicate m false ++ burst ++ List.replicate n false)
    (hlen : burst.length ≤ 16) (hone : true ∈ burst) (expected : UInt8) :
    verifyE2e slot' expected = .err .kChecksumMismatch := by
  apply IpcSlot.verifyE2e_of_not_isCodeword hok
  rw [hflips, isCodeword_pad_iff rfl]
  exact not_isCodeword_of_short rfl hlen hone

/-- `burst_detected` for all eight bits of the payload's length. -/
theorem burst_detected_payloadLen :
    verifyE2e { speedSlot with payloadLen := 0xFB } 5 = .err .kChecksumMismatch := by
  have hflips : speedSlot.flips { speedSlot with payloadLen := 0xFB } =
      List.replicate 112 false ++ List.replicate 8 true ++ List.replicate 1064 false := by
    decide +kernel
  exact burst_detected verifyE2e_speedSlot hflips (by decide) (by decide) 5

/-- The payload with three bits of its first byte and one of its third flipped. -/
def disturb (payload : Bytes 128) : Bytes 128 :=
  Vector.ofFn fun i : Fin 128 =>
    payload[i] ^^^ (if (i : ℕ) = 0 then 0x0B else if (i : ℕ) = 2 then 0x01 else 0)

/-- The bits in which `disturb` changes a slot. -/
def disturbance : List Bool :=
  List.replicate 144 false ++ bytesBits [0x0B, 0x00, 0x01] ++ List.replicate 1016 false

/-- `disturb` flips the same bits of every slot. -/
theorem flips_disturb (slot : IpcSlot) :
    slot.flips { slot with payload := disturb slot.payload } = disturbance := by
  have hfront : ∀ payload, { slot with payload }.protectedBytes =
      slot.protectedBytes.take 18 ++ payload.toList := by
    intro payload
    unfold IpcSlot.protectedBytes
    rw [List.take_left' (by simp)]
  have hsame : List.zipWith (· ^^^ ·) (slot.protectedBytes.take 18)
      (slot.protectedBytes.take 18) = List.replicate 18 (0 : UInt8) := by
    rw [List.zipWith_self]
    exact List.eq_replicate_iff.mpr ⟨by simp, by simp⟩
  have hpayload : List.zipWith (· ^^^ ·) slot.payload.toList (disturb slot.payload).toList =
      [0x0B, 0x00, 0x01] ++ List.replicate 125 0 := by
    apply List.ext_getElem (by simp)
    intro i hi hi'
    simp only [disturb, List.getElem_zipWith, Vector.getElem_toList, Vector.getElem_ofFn]
    rw [Fin.getElem_fin, ← UInt8.xor_assoc, UInt8.xor_self, UInt8.zero_xor]
    match i with
    | 0 => rfl
    | 1 => rfl
    | 2 => rfl
    | i + 3 => exact (List.getElem_replicate _).symm
  have hzip : List.zipWith (· ^^^ ·) slot.protectedBytes
      { slot with payload := disturb slot.payload }.protectedBytes =
        List.replicate 18 0 ++ ([0x0B, 0x00, 0x01] ++ List.replicate 125 0) := by
    conv_lhs => rw [hfront (disturb slot.payload)]
    conv_lhs => enter [2]; rw [hfront slot.payload]
    rw [List.zipWith_append rfl, hsame, hpayload]
  have hcrc : unpack (0 : UInt16).toBitVec = List.replicate 16 false := by decide
  rw [IpcSlot.flips_eq, hzip, UInt16.xor_self, hcrc, bytesBits_append, bytesBits_append,
    bytesBits_zeros, bytesBits_zeros, List.append_assoc, List.append_assoc,
    List.replicate_append_replicate, ← List.append_assoc]
  rfl

/-- **Four flipped bits can pass**: every slot has a neighbour in four bits of its payload that
gets the same verdict for every counter. So the distance of the check is four. -/
theorem four_flips_undetected (slot : IpcSlot) :
    ∃ slot', (slot.flips slot').count true = 4 ∧
      ∀ expected, verifyE2e slot' expected = verifyE2e slot expected := by
  have hcodeword : IsCodeword kCrcPolynomial disturbance := by
    rw [disturbance, isCodeword_pad_iff rfl]
    decide +kernel
  refine ⟨{ slot with payload := disturb slot.payload }, ?_, ?_⟩
  · rw [flips_disturb]
    decide +kernel
  · intro expected
    rw [← flips_disturb slot] at hcodeword
    have hcrc := IpcSlot.crc_ok_iff_of_isCodeword hcodeword
    unfold verifyE2e
    rw [if_congr (not_congr hcrc).symm rfl rfl]

end detection

end SotifPlausibility.Soa
