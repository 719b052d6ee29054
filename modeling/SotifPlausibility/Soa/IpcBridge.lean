import SotifPlausibility.Found.RingFifo
import SotifPlausibility.Soa.Event

/-!
# The IPC bridge

The bridge turns an event into a fixed-size slot, stamps it with an end-to-end header (counter,
data id, length, CRC-16) and puts it into a 32-slot ring in memory shared with the Cortex-M7.

* `IpcRingBuffer` is the shared memory as both cores see it: two raw index words and the slots.
* `IpcBridge.send` follows the source branch by branch; `send_cases` says what it can do,
  `send_ok_iff` when it takes an event and `send_eq_self` that a refused event changes nothing.
* `stamp` — the slot written for an event under a counter. `verifyE2e_stamp_iff`: it passes the
  receiver's check for that counter and for no other.

Source: `IpcBridge.hpp`, `IpcBridge.cpp`.
-/

namespace SotifPlausibility.Soa

open SotifPlausibility.Found

/-! ### Geometry -/

/-- Bytes of payload in a slot. -/
def kIpcPayloadBytes : ℕ := 128

/-- The mask that wraps an index. -/
def kIpcRingSlotMask : UInt32 := 31

/-- The presence marker of an initialised ring. -/
def kIpcMagic : UInt32 := 0xA53CA53C

/-- `sizeof(IpcSlot)`. -/
def sizeofIpcSlot : UInt16 := 148

/-! ### Slots -/

/-- The end-to-end header of a slot.
Source: `IpcBridge.hpp`, `E2eProfile5Header`. -/
structure E2eProfile5Header where
  /-- CRC-16 over the rest of the header and the payload. -/
  crc : UInt16
  /-- The sequence counter, wrapping. -/
  counter : UInt8
  dataId : UInt8
  /-- The total length of the slot in bytes. -/
  length : UInt16
  reserved : UInt16
  deriving DecidableEq, Repr

/-- A slot of the ring.
Source: `IpcBridge.hpp`, `IpcSlot`. -/
structure IpcSlot where
  e2eHeader : E2eProfile5Header
  serviceId : UInt16
  eventId : UInt16
  sessionId : UInt32
  payloadLen : UInt8
  reserved : Bytes 3
  payload : Bytes 128
  deriving DecidableEq, Repr

/-- The slot of zeroed memory. -/
def IpcSlot.zero : IpcSlot where
  e2eHeader := { crc := 0, counter := 0, dataId := 0, length := 0, reserved := 0 }
  serviceId := 0
  eventId := 0
  sessionId := 0
  payloadLen := 0
  reserved := Bytes.zeros 3
  payload := Bytes.zeros 128

/-- The bytes of a slot after its CRC field, as they lie in memory. -/
def IpcSlot.protectedBytes (slot : IpcSlot) : List UInt8 :=
  [slot.e2eHeader.counter, slot.e2eHeader.dataId]
    ++ (Bytes.packU16 slot.e2eHeader.length).toList
    ++ (Bytes.packU16 slot.e2eHeader.reserved).toList
    ++ (Bytes.packU16 slot.serviceId).toList
    ++ (Bytes.packU16 slot.eventId).toList
    ++ (Bytes.packU32 slot.sessionId).toList
    ++ [slot.payloadLen]
    ++ slot.reserved.toList
    ++ slot.payload.toList

/-- Fills a slot from an event: its ids, and the first `payloadLen` bytes of its payload over zeros.
The header is left as it lies in the ring.
Source: `IpcBridge.cpp`, `IpcBridge::Send`. -/
def IpcSlot.populate (slot : IpcSlot) (event : SoaEvent) : IpcSlot :=
  { slot with
    serviceId := event.serviceId
    eventId := event.eventId
    sessionId := event.sessionId
    payloadLen := event.payloadLen
    reserved := Bytes.zeros 3
    payload := Vector.ofFn fun i : Fin 128 =>
      if (i : ℕ) < event.payloadLen.toNat then event.payload[(i : ℕ)] else 0 }

/-! ### The checksum -/

/-- One entry of the CRC table: eight shift steps with polynomial 0x8005.
Source: `IpcBridge.cpp`, `GenerateCrcEntry`. -/
def generateCrcEntry (idx : UInt8) : UInt16 :=
  (List.range 8).foldl
    (fun crc _ => if crc &&& 0x0001 ≠ 0 then (crc >>> 1) ^^^ 0x8005 else crc >>> 1)
    idx.toUInt16

/-- The CRC table.
Source: `IpcBridge.cpp`, `MakeCrcTable`. -/
def kCrcTable : Vector UInt16 256 :=
  Vector.ofFn fun i : Fin 256 => generateCrcEntry (UInt8.ofNat i)

/-- One byte of the checksum loop. -/
def crcStep (crc : UInt16) (byte : UInt8) : UInt16 :=
  let tableIdx := (crc ^^^ byte.toUInt16).toUInt8
  (crc >>> 8) ^^^ getElem kCrcTable tableIdx.toNat tableIdx.toNat_lt

/-- The checksum of the bytes behind a pointer, 0 for a null one. No proof evaluates it.
Source: `IpcBridge.cpp`, `IpcBridge::ComputeE2eCrc`. -/
@[irreducible] def computeE2eCrc : Option (List UInt8) → UInt16
  | none => 0
  | some data => data.foldl crcStep 0

/-- The receiver's check of a slot.
Source: `IpcBridge.cpp`, `IpcBridge::VerifyE2e`. -/
def verifyE2e (slot : IpcSlot) (expectedCounter : UInt8) : VoidResult :=
  if computeE2eCrc (some slot.protectedBytes) ≠ slot.e2eHeader.crc then .err .kChecksumMismatch
  else if slot.e2eHeader.counter ≠ expectedCounter then .err .kSequenceError
  else .ok

/-! ### The bridge -/

/-- The ring as it lies in shared memory: the producer writes `head`, the consumer `tail`.
Source: `IpcBridge.hpp`, `IpcRingBuffer`. -/
structure IpcRingBuffer where
  head : UInt32
  tail : UInt32
  magic : UInt32
  pad : UInt32
  slots : Vector IpcSlot 32
  deriving DecidableEq, Repr

/-- The bridge: the ring it was given (none for a null pointer), the end-to-end counter and the
flag `Init` sets.
Source: `IpcBridge.hpp`, `IpcBridge`. -/
structure IpcBridge where
  ring : Option IpcRingBuffer
  seqCounter : UInt8 := 0
  initialised : Bool := false
  deriving DecidableEq, Repr

namespace IpcBridge

/-- Zeroes the ring and marks it present.
Source: `IpcBridge.cpp`, `IpcBridge::Init`. -/
def init (bridge : IpcBridge) : VoidResult × IpcBridge :=
  match bridge.ring with
  | none => (.err .kNullPointer, bridge)
  | some _ =>
      if bridge.initialised then (.err .kAlreadyRegistered, bridge)
      else
        (.ok,
          { ring := some
              { head := 0, tail := 0, magic := kIpcMagic, pad := 0
                slots := Vector.replicate 32 IpcSlot.zero }
            seqCounter := 0
            initialised := true })

/-- Stamps the header fields and the checksum into a slot and advances the counter.
Source: `IpcBridge.cpp`, `IpcBridge::ApplyE2eHeader`. -/
def applyE2eHeader (bridge : IpcBridge) (slot : IpcSlot) : IpcSlot × IpcBridge :=
  let header : E2eProfile5Header :=
    { crc := 0, counter := bridge.seqCounter, dataId := 0x01, length := sizeofIpcSlot
      reserved := 0 }
  let crc := computeE2eCrc (some { slot with e2eHeader := header }.protectedBytes)
  ({ slot with e2eHeader := { header with crc } },
    { bridge with seqCounter := bridge.seqCounter + 1 })

/-- Puts an event into the ring. The store at `slots[head]` is in bounds in every state reached
from `init` (`WellFormed`).
Source: `IpcBridge.cpp`, `IpcBridge::Send`. -/
def send (bridge : IpcBridge) (event : SoaEvent) : VoidResult × IpcBridge :=
  if !bridge.initialised then (.err .kNotInitialized, bridge)
  else
    match bridge.ring with
    | none => (.err .kNullPointer, bridge)
    | some ring =>
        if event.payloadLen > UInt8.ofNat kIpcPayloadBytes then (.err .kInvalidArgument, bridge)
        else
          let nextHead := (ring.head + 1) &&& kIpcRingSlotMask
          if nextHead = ring.tail then (.err .kIpcBufferFull, bridge)
          else
            let old := (ring.slots[ring.head.toNat]?).getD IpcSlot.zero
            let (slot, bridge) := bridge.applyE2eHeader (old.populate event)
            (.ok,
              { bridge with
                ring := some
                  { ring with
                    head := nextHead
                    slots := ring.slots.setIfInBounds ring.head.toNat slot } })

/-! ### What a send does -/

section send

variable {bridge : IpcBridge} {event : SoaEvent}

/-- The bridge takes an event: it is initialised, its ring is there and not full, and the payload
fits into a slot. -/
def Takes (bridge : IpcBridge) (event : SoaEvent) : Prop :=
  bridge.initialised = true ∧ event.payloadLen ≤ 128 ∧
    ∃ ring ∈ bridge.ring, (ring.head + 1) &&& kIpcRingSlotMask ≠ ring.tail

/-- The slot written for an event sent under an end-to-end counter. -/
def stamp (counter : UInt8) (event : SoaEvent) : IpcSlot :=
  (({ ring := none, seqCounter := counter } : IpcBridge).applyE2eHeader
    (IpcSlot.zero.populate event)).1

/-- A slot that is stamped does not depend on what lay in the ring before. -/
theorem applyE2eHeader_populate (bridge : IpcBridge) (old : IpcSlot) (event : SoaEvent) :
    bridge.applyE2eHeader (old.populate event) =
      (stamp bridge.seqCounter event, { bridge with seqCounter := bridge.seqCounter + 1 }) :=
  rfl

/-- **The two outcomes of a send**: the event is written at `head` and the bridge advances, or it is
refused and nothing changes. -/
theorem send_cases (bridge : IpcBridge) (event : SoaEvent) :
    (∃ ring, bridge.ring = some ring ∧ bridge.initialised = true ∧ event.payloadLen ≤ 128 ∧
        (ring.head + 1) &&& kIpcRingSlotMask ≠ ring.tail ∧
        bridge.send event =
          (.ok,
            { ring := some
                { ring with
                  head := (ring.head + 1) &&& kIpcRingSlotMask
                  slots := ring.slots.setIfInBounds ring.head.toNat
                    (stamp bridge.seqCounter event) }
              seqCounter := bridge.seqCounter + 1
              initialised := true })) ∨
      (¬ bridge.Takes event ∧ ∃ e, bridge.send event = (.err e, bridge)) := by
  rcases bridge with ⟨ring, counter, initialised⟩
  by_cases hinit : initialised = true
  · subst hinit
    rcases ring with _ | ring
    · exact Or.inr ⟨by rintro ⟨-, -, r, hr, -⟩; simp at hr, _, rfl⟩
    · by_cases hlen : event.payloadLen ≤ 128
      · have hlen' : ¬ event.payloadLen > UInt8.ofNat kIpcPayloadBytes :=
            UInt8.not_lt.mpr hlen
        by_cases hfull : (ring.head + 1) &&& kIpcRingSlotMask = ring.tail
        · refine Or.inr ⟨?_, .kIpcBufferFull, ?_⟩
          · rintro ⟨-, -, r, hr, hne⟩
            obtain rfl := Option.some.inj hr
            exact hne hfull
          · simp [send, hlen', hfull]
        · refine Or.inl ⟨ring, rfl, rfl, hlen, hfull, ?_⟩
          simp only [send, hlen', hfull, if_false, applyE2eHeader_populate]
          rfl
      · have hlen' : event.payloadLen > UInt8.ofNat kIpcPayloadBytes := UInt8.not_le.mp hlen
        exact Or.inr ⟨fun h => hlen h.2.1, .kInvalidArgument, by simp [send, hlen']⟩
  · obtain rfl : initialised = false := by simpa using hinit
    exact Or.inr ⟨fun h => Bool.false_ne_true h.1, .kNotInitialized, rfl⟩

/-- A send succeeds exactly when the bridge takes the event. -/
theorem send_ok_iff : (bridge.send event).1 = .ok ↔ bridge.Takes event := by
  rcases send_cases bridge event with ⟨ring, hring, hinit, hlen, hfull, hsend⟩ | ⟨hnot, e, hsend⟩
  · rw [hsend]
    constructor
    · intro _
      exact ⟨hinit, hlen, ring, hring, hfull⟩
    · intro _
      rfl
  · rw [hsend]
    constructor
    · intro hok
      exact absurd hok (by simp)
    · intro htakes
      exact absurd htakes hnot

/-- A refused event leaves the bridge and the ring alone. -/
theorem send_eq_self (h : (bridge.send event).1 ≠ .ok) : (bridge.send event).2 = bridge := by
  rcases send_cases bridge event with ⟨ring, -, -, -, -, hsend⟩ | ⟨-, e, hsend⟩
  · rw [hsend] at h
    exact absurd rfl h
  · rw [hsend]

/-- The checksum is not part of the bytes it protects. -/
theorem protectedBytes_crc (slot : IpcSlot) (crc crc' : UInt16) (counter dataId : UInt8)
    (length reserved : UInt16) :
    { slot with e2eHeader := ⟨crc, counter, dataId, length, reserved⟩ }.protectedBytes =
      { slot with e2eHeader := ⟨crc', counter, dataId, length, reserved⟩ }.protectedBytes :=
  rfl

/-- **A stamped slot is end-to-end valid** for the counter it was sent under, and for no other. -/
theorem verifyE2e_stamp_iff (counter expected : UInt8) :
    verifyE2e (stamp counter event) expected = .ok ↔ expected = counter := by
  have hcrc : computeE2eCrc (some (stamp counter event).protectedBytes) =
      (stamp counter event).e2eHeader.crc :=
    congrArg (fun bytes => computeE2eCrc (some bytes)) (protectedBytes_crc _ _ 0 _ _ _ _)
  have hcounter : (stamp counter event).e2eHeader.counter = counter := rfl
  unfold verifyE2e
  rw [if_neg (not_not.mpr hcrc), hcounter]
  split_ifs with hne
  · constructor
    · intro herr
      exact absurd herr (by simp)
    · intro heq
      exact absurd heq.symm hne
  · constructor
    · intro _
      exact (not_not.mp hne).symm
    · intro _
      rfl

@[simp] theorem stamp_serviceId (counter : UInt8) :
    (stamp counter event).serviceId = event.serviceId := rfl

@[simp] theorem stamp_eventId (counter : UInt8) :
    (stamp counter event).eventId = event.eventId := rfl

@[simp] theorem stamp_sessionId (counter : UInt8) :
    (stamp counter event).sessionId = event.sessionId := rfl

@[simp] theorem stamp_payloadLen (counter : UInt8) :
    (stamp counter event).payloadLen = event.payloadLen := rfl

/-- The payload of a stamped slot is the event's, as far as the event's length reaches. -/
theorem load_payload_stamp (counter : UInt8) {k : ℕ} (hk : k ≤ event.payloadLen.toNat)
    (h128 : k ≤ 128) :
    (stamp counter event).payload.load 0 k (by omega) = event.payload.load 0 k (by omega) := by
  ext i hi
  have hi' : i < event.payloadLen.toNat := by omega
  simp [stamp, applyE2eHeader, IpcSlot.populate, hi']

end send

end IpcBridge

end SotifPlausibility.Soa
