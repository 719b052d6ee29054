import SotifPlausibility.Found.ByteCodec

/-!
# The gateway's shared types

* `ErrorCode`, `VoidResult` — error propagation without exceptions: a call gives `ok` or an error
  code, never both.
* `SoaEvent` — the fixed-size frame every service exchanges.

Source: `SoaServiceManager.hpp`.
-/

namespace SotifPlausibility.Soa

open SotifPlausibility.Found

/-- Error codes shared across the gateway.
Source: `SoaServiceManager.hpp`, `ErrorCode`. -/
inductive ErrorCode where
  | kOk
  | kNullPointer
  | kRegistryFull
  | kServiceNotFound
  | kSubscriberFull
  | kQueueFull
  | kUnauthorized
  | kInvalidArgument
  | kE2eViolation
  | kIpcBufferFull
  | kAlreadyRegistered
  | kNotInitialized
  | kChecksumMismatch
  | kSequenceError
  | kTimeout
  | kUnknown
  deriving DecidableEq, Repr

/-- The result of a call without a value. The source's pair of a flag and a code has only these two
shapes, those its factories `Ok` and `Err` build.
Source: `SoaServiceManager.hpp`, `Result<void*>`. -/
inductive VoidResult where
  | ok
  | err (error : ErrorCode)
  deriving DecidableEq, Repr

/-- An event on the wire.
Source: `SoaServiceManager.hpp`, `SoaEvent`. -/
structure SoaEvent where
  serviceId : UInt16 := 0xFFFF
  eventId : UInt16 := 0
  sessionId : UInt32 := 0
  payloadLen : UInt8 := 0
  payload : Bytes 256 := Bytes.zeros 256
  deriving DecidableEq, Repr

/-- The bytes in use lie within the payload, whatever their number is. -/
theorem SoaEvent.payloadLen_within (event : SoaEvent) : 0 + event.payloadLen.toNat ≤ 256 := by
  have hlt := event.payloadLen.toNat_lt
  omega

end SotifPlausibility.Soa
