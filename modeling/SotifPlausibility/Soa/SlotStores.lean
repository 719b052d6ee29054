import Mathlib.Data.List.Intervals
import SotifPlausibility.Soa.IpcBridge

/-!
# The stores to a slot

The producer writes a slot of the ring in single stores, between which the other core runs.

* `SlotStores` — the stores by which the producer builds the slot of an event: together they leave
  the stamped slot, whatever lay in memory before. In what pieces and in which order they reach the
  memory is left open.
* `sendStores` — the stores of `Send` and `ApplyE2eHeader` in the order of the source, byte by byte
  over the payload. `foldl_sendStores`: one by one they leave what `Send` writes.
  `length_sendStores`: there are 141, and one for each byte of the payload in use.
* `sourceStores` — these stores.

Source: `IpcBridge.cpp`.
-/

namespace SotifPlausibility.Soa

open SotifPlausibility.Found

/-- How the producer writes a slot. -/
structure SlotStores where
  /-- The stores for an event, under an end-to-end counter. -/
  stores : UInt8 → SoaEvent → List (IpcSlot → IpcSlot)
  /-- The stores leave the stamped slot, whatever lay there. -/
  foldl_stores : ∀ counter event slot,
    (stores counter event).foldl (fun slot store => store slot) slot =
      IpcBridge.stamp counter event

/-! ### The stores of the source -/

/-- Stores of single bytes of the payload, at the positions `is`. -/
def payloadStores (is : List (Fin 128)) (byte : Fin 128 → UInt8) : List (IpcSlot → IpcSlot) :=
  is.map fun (i : Fin 128) (slot : IpcSlot) =>
    { slot with payload := slot.payload.setIfInBounds i.val (byte i) }

/-- The stores that fill a slot from an event.
Source: `IpcBridge.cpp`, `IpcBridge::Send`. -/
def populateStores (event : SoaEvent) : List (IpcSlot → IpcSlot) :=
  [fun slot => { slot with serviceId := event.serviceId },
    fun slot => { slot with eventId := event.eventId },
    fun slot => { slot with sessionId := event.sessionId },
    fun slot => { slot with payloadLen := event.payloadLen },
    fun slot => { slot with reserved := slot.reserved.setIfInBounds 0 0 },
    fun slot => { slot with reserved := slot.reserved.setIfInBounds 1 0 },
    fun slot => { slot with reserved := slot.reserved.setIfInBounds 2 0 }]
    -- memset over the whole payload, then memcpy of the bytes in use
    ++ payloadStores (List.finRange 128) (fun _ => 0)
    ++ payloadStores ((List.finRange 128).filter fun i => i.val < event.payloadLen.toNat)
        (fun i => (event.payload[i.val]?).getD 0)

/-- The stores that stamp a slot. The last one reads the slot back from memory for its checksum.
Source: `IpcBridge.cpp`, `IpcBridge::ApplyE2eHeader`. -/
def headerStores (counter : UInt8) : List (IpcSlot → IpcSlot) :=
  [fun slot => { slot with e2eHeader := { slot.e2eHeader with counter } },
    fun slot => { slot with e2eHeader := { slot.e2eHeader with dataId := 0x01 } },
    fun slot => { slot with e2eHeader := { slot.e2eHeader with length := sizeofIpcSlot } },
    fun slot => { slot with e2eHeader := { slot.e2eHeader with reserved := 0 } },
    fun slot => { slot with e2eHeader := { slot.e2eHeader with crc := 0 } },
    fun slot => { slot with e2eHeader :=
      { slot.e2eHeader with crc := computeE2eCrc (some slot.protectedBytes) } }]

/-- All stores of a send to its slot, in order.
Source: `IpcBridge.cpp`, `IpcBridge::Send`. -/
def sendStores (counter : UInt8) (event : SoaEvent) : List (IpcSlot → IpcSlot) :=
  populateStores event ++ headerStores counter

/-- Stores to the payload leave the other fields alone. -/
theorem foldl_payloadStores (is : List (Fin 128)) (byte : Fin 128 → UInt8) (slot : IpcSlot) :
    (payloadStores is byte).foldl (fun slot store => store slot) slot =
      { slot with payload := Bytes.storeBytes slot.payload is byte } := by
  unfold payloadStores Bytes.storeBytes
  rw [List.foldl_map]
  induction is generalizing slot with
  | nil => rfl
  | cons i is ih =>
      rw [List.foldl_cons, ih]
      rfl

/-- The stores that fill a slot leave what `populate` says. -/
theorem foldl_populateStores (event : SoaEvent) (slot : IpcSlot) :
    (populateStores event).foldl (fun slot store => store slot) slot = slot.populate event := by
  have hreserved : ((slot.reserved.setIfInBounds 0 0).setIfInBounds 1 0).setIfInBounds 2 0 =
      Bytes.zeros 3 := by
    ext i hi
    have hcases : i = 0 ∨ i = 1 ∨ i = 2 := by omega
    rcases hcases with rfl | rfl | rfl <;> simp [Bytes.zeros]
  have hpayload : Bytes.storeBytes (Bytes.storeBytes slot.payload (List.finRange 128) fun _ => 0)
      ((List.finRange 128).filter fun i => i.val < event.payloadLen.toNat)
      (fun i => (event.payload[i.val]?).getD 0) = (slot.populate event).payload := by
    ext i hi
    have hbyte : event.payload[i]? = some event.payload[i] := Vector.getElem?_eq_getElem (by omega)
    rw [Bytes.storeBytes_finRange, Bytes.getElem_storeBytes]
    simp [IpcSlot.populate, hbyte]
  unfold populateStores
  rw [List.foldl_append, List.foldl_append, foldl_payloadStores, foldl_payloadStores]
  simp only [List.foldl_cons, List.foldl_nil, hreserved, hpayload]
  rfl

/-- **The stores of a send, one by one, leave the stamped slot.** -/
theorem foldl_sendStores (counter : UInt8) (event : SoaEvent) (slot : IpcSlot) :
    (sendStores counter event).foldl (fun slot store => store slot) slot =
      IpcBridge.stamp counter event := by
  unfold sendStores
  rw [List.foldl_append, foldl_populateStores]
  rfl

/-- The indices below `n`, counted. -/
theorem length_filter_finRange {m n : ℕ} (h : n ≤ m) :
    ((List.finRange m).filter fun i => i.val < n).length = n := by
  have hmap : ((List.finRange m).filter fun i => i.val < n).map Fin.val =
      (List.range m).filter fun i => i < n := by
    rw [← List.map_coe_finRange_eq_range, List.filter_map]
    rfl
  have hrange : (List.range m).filter (fun i => i < n) = List.range n := by
    rw [← List.Ico.zero_bot, List.Ico.filter_lt_of_ge h, List.Ico.zero_bot]
  rw [← List.length_map Fin.val, hmap, hrange, List.length_range]

/-- A send makes 141 stores to its slot and one for each byte of the payload in use. -/
theorem length_sendStores (counter : UInt8) {event : SoaEvent} (h : event.payloadLen ≤ 128) :
    (sendStores counter event).length = 141 + event.payloadLen.toNat := by
  have hlen : event.payloadLen.toNat ≤ 128 := UInt8.le_iff_toNat_le.mp h
  have hbytes := length_filter_finRange hlen
  simp only [sendStores, populateStores, headerStores, payloadStores, List.length_append,
    List.length_map, List.length_finRange, hbytes, List.length_cons, List.length_nil]
  omega

/-- The stores in the order of the source. -/
def sourceStores : SlotStores where
  stores := sendStores
  foldl_stores := foldl_sendStores

end SotifPlausibility.Soa
