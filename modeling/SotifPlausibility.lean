import SotifPlausibility.Found.Binary32
import SotifPlausibility.Found.BitMask
import SotifPlausibility.Found.ByteCodec
import SotifPlausibility.Found.Checks
import SotifPlausibility.Found.Linearization
import SotifPlausibility.Found.Machine
import SotifPlausibility.Found.MerkleDamgard
import SotifPlausibility.Found.OracleProg
import SotifPlausibility.Found.RingFifo
import SotifPlausibility.Found.RingLog
import SotifPlausibility.Found.ShiftRegister
import SotifPlausibility.Found.Stages
import SotifPlausibility.Found.TwosComplement
import SotifPlausibility.Found.WrappedClock
import SotifPlausibility.Soa.Event
import SotifPlausibility.Soa.IpcBridge
import SotifPlausibility.Soa.IpcQueue
import SotifPlausibility.Soa.SlotStores
import SotifPlausibility.Soa.RingConsumer
import SotifPlausibility.Soa.Interleaving
import SotifPlausibility.Soa.Linearizability
import SotifPlausibility.Soa.SendProgress
import SotifPlausibility.Soa.E2eProtection
import SotifPlausibility.Soa.SafeStateCommand
import SotifPlausibility.Soa.SafetyArbitrator
import SotifPlausibility.Soa.TransitionLog
import SotifPlausibility.Soa.SensorDomains
import SotifPlausibility.Verification.ReferenceModel
import SotifPlausibility.Verification.Escalation
import SotifPlausibility.Verification.Relaxation
import SotifPlausibility.Sotif.Gate
import SotifPlausibility.Sotif.GateSystem
import SotifPlausibility.Sotif.Verdict
import SotifPlausibility.Sotif.Freshness
import SotifPlausibility.Sotif.ReplayGuard
import SotifPlausibility.Sotif.Tightening
import SotifPlausibility.Sotif.EvidenceLog
import SotifPlausibility.Sotif.Rejection
import SotifPlausibility.Sotif.CommandForm
import SotifPlausibility.Sotif.Consumer
import SotifPlausibility.Sotif.SharedChannel
import SotifPlausibility.Sotif.CommandNumbers
import SotifPlausibility.Sotif.LostCommand
import SotifPlausibility.Zzta.Platform
import SotifPlausibility.Zzta.SpdmProtocolEngine
import SotifPlausibility.Zzta.HybridAuthGate
import SotifPlausibility.Zzta.HybridSessions
import SotifPlausibility.Zzta.HybridBinding
import SotifPlausibility.Zzta.ChallengeUse
import SotifPlausibility.Zzta.EngineStates
import SotifPlausibility.Zzta.SoftwareCryptoProvider
import SotifPlausibility.Zzta.NonceSequence
import SotifPlausibility.Zzta.Sha256
import SotifPlausibility.Zzta.SoftwareHandshake
import SotifPlausibility.V2x.TrustVerifier
import SotifPlausibility.V2x.NetworkAdapter
import SotifPlausibility.V2x.CallTrace
import SotifPlausibility.V2x.Acceptance
import SotifPlausibility.V2x.TrustStatus
import SotifPlausibility.V2x.Publication
import SotifPlausibility.V2x.Redistribution
import SotifPlausibility.V2x.WireFormat
import SotifPlausibility.V2x.SignatureRoles
import SotifPlausibility.V2x.SoftwareChain
