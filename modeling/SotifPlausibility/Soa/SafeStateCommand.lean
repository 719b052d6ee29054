import SotifPlausibility.Found.Binary32
import SotifPlausibility.Soa.IpcBridge

/-!
# Safe-state commands and their wire layout

The command the M7 supervisor obeys, and the 24-byte layout both senders of it write.

* `SafeState` — the eight restrictions, ordered by severity.
* `SafeStateCommand.event` — the event a command travels in: reserved ids, and the payload of
  `packPayload`.
* **Round trip** (`unpackPayload_packPayload`): the receiver reads back the command that was packed.
  `unpackPayload_stamp` says so of the slot the bridge writes.

Source: `SafetyArbitrator.hpp`; `SafetyArbitrator.cpp`, layout comment of `SendCommandToM7`.
-/

namespace SotifPlausibility.Soa

open SotifPlausibility.Found

/-! ### Physical envelope -/

/-- The hard stop of the steering, in degrees. -/
def kMaxSteeringAngleDeg : Float32 := 540.0

/-- The lateral limit of the tyres, in m/s². -/
def kMaxLateralAccelMps2 : Float32 := 8.5

/-- Hard braking, in m/s². -/
def kMaxLongitudinalDecelMps2 : Float32 := 9.81

/-- The speed cap of a minimal-risk condition, in km/h. -/
def kMrcMaxSpeedKph : Float32 := 20.0

/-- The speed cap of degraded driving, in km/h. -/
def kDegradedMaxSpeedKph : Float32 := 30.0

/-- The magic word of a command. -/
def kArbitratorMagic : UInt32 := 0x5AFE0001

/-! ### Safe states -/

/-- The restrictions the arbitrator can put the vehicle under, "ordered by severity".
Source: `SafetyArbitrator.hpp`, `SafeState`. -/
inductive SafeState where
  | kFullOperation
  | kRadarCameraFallback
  | kLidarCameraFallback
  | kLidarRadarFallback
  | kDeadReckoningMode
  | kReducedDynamics
  | kMinimalRiskCondition
  | kEmergencyStop
  deriving DecidableEq, Repr

namespace SafeState

/-- The number of a state: higher means a more severe restriction. -/
def toUInt8 : SafeState → UInt8
  | kFullOperation => 0
  | kRadarCameraFallback => 1
  | kLidarCameraFallback => 2
  | kLidarRadarFallback => 3
  | kDeadReckoningMode => 4
  | kReducedDynamics => 5
  | kMinimalRiskCondition => 6
  | kEmergencyStop => 7

/-- The state with a number. -/
def ofUInt8 (n : UInt8) : Option SafeState :=
  match n.toNat with
  | 0 => some kFullOperation
  | 1 => some kRadarCameraFallback
  | 2 => some kLidarCameraFallback
  | 3 => some kLidarRadarFallback
  | 4 => some kDeadReckoningMode
  | 5 => some kReducedDynamics
  | 6 => some kMinimalRiskCondition
  | 7 => some kEmergencyStop
  | _ => none

/-- The byte of a state decodes to it. -/
@[simp] theorem ofUInt8_toUInt8 (s : SafeState) : ofUInt8 s.toUInt8 = some s := by
  cases s <;> rfl

/-- Severity is the order of the numbers. -/
instance : LE SafeState := ⟨fun s t => s.toUInt8 ≤ t.toUInt8⟩

instance (s t : SafeState) : Decidable (s ≤ t) :=
  inferInstanceAs (Decidable (s.toUInt8 ≤ t.toUInt8))

end SafeState

/-! ### Commands -/

/-- A safe-state command.
Source: `SafetyArbitrator.hpp`, `SafeStateCommand`. -/
structure SafeStateCommand where
  magic : UInt32 := kArbitratorMagic
  state : SafeState := .kFullOperation
  /-- Bit `n`: sensor domain `n` is active. -/
  activeDomains : UInt8 := 0xFF
  /-- Bit `n`: sensor domain `n` is faulted. -/
  faultBitmask : UInt8 := 0x00
  reserved : UInt8 := 0
  maxSpeedKph : Float32 := 130.0
  maxDecelMps2 : Float32 := kMaxLongitudinalDecelMps2
  /-- The measured transition time. -/
  transitionMs : UInt32 := 0
  /-- "Monotone command counter". -/
  sequenceNum : UInt32 := 0
  deriving DecidableEq

namespace SafeStateCommand

/-- The payload of a command. `SafetyArbitrator::SendCommandToM7` and
`SotifPlausibilityGate::EscalateToSafeState` write it with the same stores. -/
def packPayload (cmd : SafeStateCommand) : Bytes 256 :=
  (((((Bytes.zeros 256).store 0 (Bytes.packU32 cmd.magic)).store 4
    #v[cmd.state.toUInt8, cmd.activeDomains, cmd.faultBitmask, 0]).store 8
    (Bytes.packU32 cmd.maxSpeedKph.toBits)).store 12
    (Bytes.packU32 cmd.maxDecelMps2.toBits)).store 16
    (Bytes.packU32 cmd.transitionMs) |>.store 20
    (Bytes.packU32 cmd.sequenceNum)

/-- The command 24 bytes stand for, if the state byte is a state's number. -/
def unpackPayload (p : Bytes 24) : Option SafeStateCommand :=
  (SafeState.ofUInt8 p[4]).map fun state =>
    { magic := Bytes.unpackU32 (p.load 0 4)
      state
      activeDomains := p[5]
      faultBitmask := p[6]
      reserved := p[7]
      maxSpeedKph := Float32.ofBits (Bytes.unpackU32 (p.load 8 4))
      maxDecelMps2 := Float32.ofBits (Bytes.unpackU32 (p.load 12 4))
      transitionMs := Bytes.unpackU32 (p.load 16 4)
      sequenceNum := Bytes.unpackU32 (p.load 20 4) }

/-- The reserved service of safe-state commands. -/
def serviceId : UInt16 := 0xFF00

/-- The reserved event of safe-state commands. -/
def eventId : UInt16 := 0xFF01

/-- The event a command travels in. -/
def event (cmd : SafeStateCommand) (sessionId : UInt32) : SoaEvent where
  serviceId := serviceId
  eventId := eventId
  sessionId := sessionId
  payloadLen := 24
  payload := cmd.packPayload

/-- The command an event carries. -/
def ofEvent (event : SoaEvent) : Option SafeStateCommand :=
  unpackPayload (event.payload.load 0 24)

section layout

variable (cmd : SafeStateCommand)

/-- The fields of a packed payload, each read where it was stored. -/
theorem load_packPayload :
    cmd.packPayload.load 0 4 = Bytes.packU32 cmd.magic ∧
      cmd.packPayload.load 4 4 = #v[cmd.state.toUInt8, cmd.activeDomains, cmd.faultBitmask, 0] ∧
      cmd.packPayload.load 8 4 = Bytes.packU32 cmd.maxSpeedKph.toBits ∧
      cmd.packPayload.load 12 4 = Bytes.packU32 cmd.maxDecelMps2.toBits ∧
      cmd.packPayload.load 16 4 = Bytes.packU32 cmd.transitionMs ∧
      cmd.packPayload.load 20 4 = Bytes.packU32 cmd.sequenceNum := by
  unfold packPayload
  refine ⟨?_, ?_, ?_, ?_, ?_, ?_⟩ <;>
    simp only [Bytes.load_store, Bytes.load_store_of_disjoint, Nat.reduceAdd, Nat.reduceLeDiff,
      or_true]

/-- **Round trip**: the receiver reads the command that was packed. -/
theorem unpackPayload_packPayload :
    unpackPayload (cmd.packPayload.load 0 24) = some { cmd with reserved := 0 } := by
  obtain ⟨hmagic, hbytes, hspeed, hdecel, htrans, hseq⟩ := cmd.load_packPayload
  have hbyte : ∀ i (hi : i < 4), (cmd.packPayload.load 0 24)[4 + i] =
      (#v[cmd.state.toUInt8, cmd.activeDomains, cmd.faultBitmask, 0] : Bytes 4)[i] := by
    intro i hi
    rw [← hbytes]
    simp
  have h4 : (cmd.packPayload.load 0 24)[4] = cmd.state.toUInt8 := hbyte 0 (by decide)
  have h5 : (cmd.packPayload.load 0 24)[5] = cmd.activeDomains := hbyte 1 (by decide)
  have h6 : (cmd.packPayload.load 0 24)[6] = cmd.faultBitmask := hbyte 2 (by decide)
  have h7 : (cmd.packPayload.load 0 24)[7] = 0 := hbyte 3 (by decide)
  unfold unpackPayload
  simp only [Bytes.load_load, Nat.zero_add, h4, h5, h6, h7, hmagic, hspeed, hdecel, htrans, hseq,
    SafeState.ofUInt8_toUInt8, Bytes.unpackU32_packU32, Float32.ofBits_toBits, Option.map_some]

/-- The receiver reads the command from the event it travels in. -/
theorem ofEvent_event (sessionId : UInt32) :
    ofEvent (cmd.event sessionId) = some { cmd with reserved := 0 } :=
  cmd.unpackPayload_packPayload

/-- A command fits into a slot. -/
theorem event_payloadLen_le (sessionId : UInt32) : (cmd.event sessionId).payloadLen ≤ 128 := by
  show (24 : UInt8) ≤ 128
  decide

/-- The receiver reads the command from the slot the bridge writes for it. -/
theorem unpackPayload_stamp (counter : UInt8) (sessionId : UInt32) :
    unpackPayload ((IpcBridge.stamp counter (cmd.event sessionId)).payload.load 0 24) =
      some { cmd with reserved := 0 } := by
  have hlen : 24 ≤ (cmd.event sessionId).payloadLen.toNat := by
    show 24 ≤ (24 : UInt8).toNat
    decide
  rw [IpcBridge.load_payload_stamp counter hlen (by decide)]
  exact cmd.unpackPayload_packPayload

end layout

end SafeStateCommand

end SotifPlausibility.Soa
