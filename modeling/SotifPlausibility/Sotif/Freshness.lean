import SotifPlausibility.Found.WrappedClock
import SotifPlausibility.Sotif.Verdict

/-!
# Freshness across the wrap of the clock

The gate judges the age of a candidate on 32-bit readings of a 64-bit clock. The readings wrap every
49.7 days; their difference does not care, but the code also compares them.

* `monotonicMs`, `sotifGateEventHandler` — where the readings come from.
* `PassesTimeChecks` — the time stamp and the age of a candidate are not what it is rejected for.
* `passesTimeChecks_iff` — on truncated times: the clock did not wrap in between, and the time that
  went by is within the limit.
* `freshness_iff` — when the code judges the age by the time that went by.
* `handler_rejects_across_wrap` — what becomes of an event when it does not.

Source: `SotifPlausibilityGate.cpp`, `MonotonicMs`, `CheckFreshnessAndSequence`,
`SotifGateEventHandler`.
-/

namespace SotifPlausibility.Sotif

open SotifPlausibility.Found SotifPlausibility.Soa

/-! ### The clock -/

/-- A reading of the operating system's monotonic clock, its fields as the code casts them.
Source: `SotifPlausibilityGate.cpp`, `MonotonicMs`, `struct timespec`. -/
structure Timespec where
  tvSec : UInt64
  tvNsec : UInt64
  deriving DecidableEq, Repr

/-- The time of a reading, in ms. -/
def Timespec.ms (ts : Timespec) : UInt64 := ts.tvSec * 1000 + ts.tvNsec / 1000000

/-- The low 32 bits of a time. -/
def truncateMs (ms : UInt64) : UInt32 := (ms &&& 0xFFFFFFFF).toUInt32

/-- The clock of the gate; a failed reading shows 0.
Source: `SotifPlausibilityGate.cpp`, `MonotonicMs`. -/
def monotonicMs : Option Timespec → UInt32
  | none => 0
  | some ts => truncateMs ts.ms

/-- The handler of the perception service: the gate registered, if one is, judges the event at the
time of the clock.
Source: `SotifPlausibilityGate.cpp`, `SotifGateEventHandler`. -/
def sotifGateEventHandler (globalGate : Option SotifPlausibilityGate) (bridge : IpcBridge)
    (event : SoaEvent) (clock : Option Timespec) : Option EvaluateOutcome :=
  globalGate.map fun gate => gate.ingestSoaEvent bridge event (monotonicMs clock)

/-- The mask of the code is a remainder by 2³². -/
theorem toNat_truncateMs (ms : UInt64) : (truncateMs ms).toNat = ms.toNat % 2 ^ 32 := by
  unfold truncateMs
  rw [UInt64.toNat_toUInt32, UInt64.toNat_and]
  show (ms.toNat &&& (2 ^ 32 - 1)) % _ = _
  rw [Nat.and_two_pow_sub_one_eq_mod, Nat.mod_mod]

/-! ### The time checks -/

section time

variable {gate : SotifPlausibilityGate} {c : PerceptionCandidateEvent} {nowMs : UInt32}
  {tc tn : UInt64}

/-- The time stamp and the age of a candidate are not what the check rejects it for. -/
def PassesTimeChecks (gate : SotifPlausibilityGate) (c : PerceptionCandidateEvent)
    (nowMs : UInt32) : Prop :=
  (gate.checkFreshnessAndSequence c nowMs).2 ≠ .kInvalidInput ∧
    (gate.checkFreshnessAndSequence c nowMs).2 ≠ .kStaleInput

/-- The two tests of the code, on 32-bit times. -/
theorem passesTimeChecks_iff :
    PassesTimeChecks gate c nowMs ↔
      c.timestampMs ≤ nowMs ∧ nowMs - c.timestampMs ≤ gate.config.maxInputAgeMs := by
  unfold PassesTimeChecks SotifPlausibilityGate.checkFreshnessAndSequence
  split_ifs with hfuture hstale hseq
  · have hnot : ¬ c.timestampMs ≤ nowMs := UInt32.not_le.mpr hfuture
    simp [hnot]
  · have hnot : ¬ nowMs - c.timestampMs ≤ gate.config.maxInputAgeMs := UInt32.not_le.mpr hstale
    simp [hnot]
  · simp [UInt32.not_lt.mp hfuture, UInt32.not_lt.mp hstale]
  · simp [UInt32.not_lt.mp hfuture, UInt32.not_lt.mp hstale]

/-- The 32-bit difference of truncated times is the time that went by. -/
theorem toNat_sub_truncateMs (hle : tc ≤ tn) (hspan : tn.toNat - tc.toNat < 2 ^ 32) :
    (truncateMs tn - truncateMs tc).toNat = tn.toNat - tc.toNat := by
  rw [UInt32.toNat_sub, toNat_truncateMs, toNat_truncateMs]
  exact WrappedClock.sub_mod_eq (UInt64.le_iff_toNat_le.mp hle) hspan

/-- The order of truncated times is that of the times when the clock did not wrap in between. -/
theorem truncateMs_le_iff (hle : tc ≤ tn) (hspan : tn.toNat - tc.toNat < 2 ^ 32) :
    truncateMs tc ≤ truncateMs tn ↔ tc.toNat / 2 ^ 32 = tn.toNat / 2 ^ 32 := by
  rw [UInt32.le_iff_toNat_le, toNat_truncateMs, toNat_truncateMs]
  exact WrappedClock.mod_le_mod_iff (UInt64.le_iff_toNat_le.mp hle) hspan

/-- **The time checks on truncated times.** -/
theorem passesTimeChecks_truncateMs_iff (hle : tc ≤ tn)
    (hspan : tn.toNat - tc.toNat < 2 ^ 32) (hstamp : c.timestampMs = truncateMs tc) :
    PassesTimeChecks gate c (truncateMs tn) ↔
      tc.toNat / 2 ^ 32 = tn.toNat / 2 ^ 32 ∧
        tn.toNat - tc.toNat ≤ gate.config.maxInputAgeMs.toNat := by
  rw [passesTimeChecks_iff, hstamp, truncateMs_le_iff hle hspan, UInt32.le_iff_toNat_le,
    toNat_sub_truncateMs hle hspan]

/-- **When freshness is judged on the time that went by.** For times less than 2³² ms apart, the
checks on the truncated times pass for exactly the ages within the limit if and only if the clock
did not wrap in between, or the candidate is too old anyway. -/
theorem freshness_iff (hle : tc ≤ tn) (hspan : tn.toNat - tc.toNat < 2 ^ 32)
    (hstamp : c.timestampMs = truncateMs tc) :
    (PassesTimeChecks gate c (truncateMs tn) ↔
        tn.toNat - tc.toNat ≤ gate.config.maxInputAgeMs.toNat) ↔
      tc.toNat / 2 ^ 32 = tn.toNat / 2 ^ 32 ∨
        gate.config.maxInputAgeMs.toNat < tn.toNat - tc.toNat := by
  rw [passesTimeChecks_truncateMs_iff hle hspan hstamp]
  constructor
  · intro h
    by_cases hage : tn.toNat - tc.toNat ≤ gate.config.maxInputAgeMs.toNat
    · exact Or.inl (h.mpr hage).1
    · exact Or.inr (Nat.not_le.mp hage)
  · rintro (hsame | hold)
    · constructor
      · intro h
        exact h.2
      · intro hage
        exact ⟨hsame, hage⟩
    · constructor
      · intro h
        exact h.2
      · intro hage
        exact absurd hage (Nat.not_le.mpr hold)

/-- A nominal candidate stamped at a time of the 64-bit clock. -/
def stampedCandidate (tc : UInt64) : PerceptionCandidateEvent :=
  { nominalCandidate 1.5 with timestampMs := truncateMs tc }

/-- `freshness_iff` away from the wrap: a candidate 20 ms old is fresh for a limit of 40 ms. -/
theorem freshness_same_period :
    PassesTimeChecks initialisedGate.gate (stampedCandidate 100) (truncateMs 120) :=
  ((freshness_iff (by decide) (by decide) rfl).mpr (Or.inl (by decide))).mpr (by decide)

/-- **A rejection across the wrap.** An event whose candidate was stamped before the clock wrapped
and is handled after it is rejected as invalid input, however young it is, and a safe-state command
is sent. -/
theorem handler_rejects_across_wrap {bridge : IpcBridge} {event : SoaEvent} {ts : Timespec}
    (hready : gate.initialised = true ∧ gate.ipc = true)
    (hlen : event.payloadLen = sizeofPerceptionCandidateEvent)
    (hstamp : (PerceptionCandidateEvent.ofEvent event).timestampMs = truncateMs tc)
    (hle : tc ≤ ts.ms) (hspan : ts.ms.toNat - tc.toNat < 2 ^ 32)
    (hwrap : tc.toNat / 2 ^ 32 ≠ ts.ms.toNat / 2 ^ 32) :
    ∃ out ∈ sotifGateEventHandler (some gate) bridge event (some ts),
      out.result = .err .kInvalidArgument ∧ out.gate.getLastRejectReason = .kInvalidInput ∧
        out.sent.isSome = true := by
  have hfuture : truncateMs ts.ms < truncateMs tc := by
    apply UInt32.not_le.mp
    rw [truncateMs_le_iff hle hspan]
    exact hwrap
  have hverdict : gate.verdict (PerceptionCandidateEvent.ofEvent event) (truncateMs ts.ms) =
      (false, .kInvalidInput) := by
    rw [← hstamp] at hfuture
    simp [SotifPlausibilityGate.verdict, SotifPlausibilityGate.checkFreshnessAndSequence, hfuture]
  have hingest : gate.ingestSoaEvent bridge event (truncateMs ts.ms) =
      gate.evaluate bridge (PerceptionCandidateEvent.ofEvent event) (truncateMs ts.ms) := by
    unfold SotifPlausibilityGate.ingestSoaEvent
    rw [if_neg (not_not.mpr hlen)]
  refine ⟨_, rfl, ?_⟩
  show (gate.ingestSoaEvent bridge event (truncateMs ts.ms)).result = _ ∧ _
  rw [hingest]
  rcases gate.evaluate_cases bridge (PerceptionCandidateEvent.ofEvent event) (truncateMs ts.ms) with
    ⟨hnot, -⟩ | ⟨-, hv, -⟩ | ⟨-, -, hout⟩
  · exact absurd hready hnot
  · rw [hverdict] at hv
    exact absurd hv (by simp)
  · rw [hverdict] at hout
    show _ ∧ (gate.ingestSoaEvent bridge event (truncateMs ts.ms)).gate.getLastRejectReason = _ ∧
      (gate.ingestSoaEvent bridge event (truncateMs ts.ms)).sent.isSome = true
    rw [hingest, hout]
    exact ⟨rfl, rfl, rfl⟩

/-- An event with a candidate stamped 10 ms before the clock wraps. -/
def lateEvent : SoaEvent where
  payloadLen := sizeofPerceptionCandidateEvent
  payload := (Bytes.zeros 256).store 24 (Bytes.packU32 (truncateMs 0xFFFFFFF6))

/-- A candidate stamped 10 ms before the clock wraps and judged 5 ms after it is 15 ms old, for a
limit of 40 ms. It is rejected as invalid input, and a safe-state command is sent; the handler does
the same with an event. -/
theorem fresh_candidate_rejected :
    let tc : UInt64 := 0xFFFFFFF6
    let tn : UInt64 := 0x100000005
    let out := initialisedGate.gate.evaluate initialisedGate.bridge (stampedCandidate tc)
      (truncateMs tn)
    ¬ (PassesTimeChecks initialisedGate.gate (stampedCandidate tc) (truncateMs tn) ↔
        tn.toNat - tc.toNat ≤ initialisedGate.gate.config.maxInputAgeMs.toNat) ∧
      out.result = .err .kInvalidArgument ∧ out.gate.getLastRejectReason = .kInvalidInput ∧
      out.sent.isSome = true ∧
      ∃ handled ∈ sotifGateEventHandler (some initialisedGate.gate) initialisedGate.bridge lateEvent
          (some { tvSec := 4294967, tvNsec := 301000000 }),
        handled.result = .err .kInvalidArgument ∧
          handled.gate.getLastRejectReason = .kInvalidInput ∧ handled.sent.isSome = true := by
  have hstamp : (PerceptionCandidateEvent.ofEvent lateEvent).timestampMs =
      truncateMs 0xFFFFFFF6 := by
    decide +kernel
  refine ⟨?_, by decide, by decide, by decide, handler_rejects_across_wrap ⟨rfl, rfl⟩ rfl hstamp
    (by decide) (by decide) (by decide)⟩
  intro h
  have hpass := (passesTimeChecks_truncateMs_iff (by decide) (by decide) rfl).mp
    (h.mpr (by decide))
  exact absurd hpass.1 (by decide)

end time

end SotifPlausibility.Sotif
