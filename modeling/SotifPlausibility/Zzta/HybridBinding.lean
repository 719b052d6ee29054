import SotifPlausibility.Zzta.HybridSessions

/-!
# What the two signatures are over

The classical signature is over the digest of the engine's nonce and client. The message of the
post-quantum signature is made of the caller's arguments, and nothing compares the two.

* `classicalMessage`, `lastChallenge` — the message behind the classical signature of the response
  that authenticated the engine.
* `confirmedMessage` — the message a confirmation found signed.
* `lastChallenge_of_authenticated` — an authenticated engine still has the nonce and the client of
  that message.
* `sameChallenge_iff` — so the two messages are the same exactly when the caller hands in the nonce
  and the client of the engine.
-/

namespace SotifPlausibility.Zzta

open SotifPlausibility.Found

section binding

variable {σ : Type} {platform : Platform σ} {s : HybridSystem σ}

/-! ### The two messages -/

/-- The message whose digest the classical signature was over, at a response that succeeded. -/
def classicalMessage (e : HybridEntry σ) : Option (List UInt8) :=
  match e.input, e.output.status with
  | .processAuthResponse _ _, some .kOk => signedChallenge e.output.calls
  | _, _ => none

/-- That message at the last response that succeeded. -/
def lastChallenge (h : List (HybridEntry σ)) : Option (List UInt8) :=
  (h.filterMap classicalMessage).getLast?

/-- The message of a check of a post-quantum signature that accepted it. -/
def PlatformCall.acceptedMessage : PlatformCall → Option (List UInt8)
  | ⟨.pqcVerify _ message _, .kOk⟩ => some message
  | _ => none

/-- The message a confirmation found signed. -/
def confirmedMessage (e : HybridEntry σ) : Option (List UInt8) :=
  e.output.calls.findSome? PlatformCall.acceptedMessage

/-- The message a confirmation found signed is the one whose digest the classical signature of the
handshake was over. -/
def SameChallenge (pre : List (HybridEntry σ)) (e : HybridEntry σ) : Prop :=
  ∃ message, confirmedMessage e = some message ∧ lastChallenge pre = some message

/-- A response that succeeded has the message its calls show. -/
theorem classicalMessage_of_responseOk {e : HybridEntry σ} (h : ResponseOk e) :
    classicalMessage e = signedChallenge e.output.calls := by
  obtain ⟨⟨response, token, hinput⟩, hok⟩ := h
  unfold classicalMessage
  rw [hinput, hok]

/-- Any other step has none. -/
theorem classicalMessage_of_not_responseOk {e : HybridEntry σ} (h : ¬ ResponseOk e) :
    classicalMessage e = none := by
  unfold classicalMessage
  split
  · next response token hinput hok => exact absurd ⟨⟨response, token, hinput⟩, hok⟩ h
  · rfl

/-- The one-step unfolding of `lastChallenge`. -/
theorem lastChallenge_concat (h : List (HybridEntry σ)) (e : HybridEntry σ) :
    lastChallenge (h ++ [e]) = (classicalMessage e).or (lastChallenge h) :=
  getLast?_filterMap_concat classicalMessage h e

/-! ### The challenge of an authenticated engine -/

/-- **An authenticated engine has the nonce and the client that the classical signature was over.**
-/
theorem lastChallenge_of_authenticated (platform : Platform σ)
    (hs : s.engine.state ≠ .kAuthenticated) (is : List HybridInput) :
    ((hybridMachine platform).final s is).engine.state = .kAuthenticated →
      lastChallenge ((hybridMachine platform).history s is) =
        some (challengeMsg ((hybridMachine platform).final s is).engine.pendingNonce
          ((hybridMachine platform).final s is).engine.authenticatedClientId).toList := by
  apply (hybridMachine platform).run_induction
    (P := fun h t => t.engine.state = .kAuthenticated → lastChallenge h =
      some (challengeMsg t.engine.pendingNonce t.engine.authenticatedClientId).toList)
  · intro hauth
    exact absurd hauth hs
  · intro h t i ih hauth
    rw [lastChallenge_concat]
    rcases hybridStep_cases platform t i with
      ⟨hresponse, -, -, hsigned⟩ | ⟨-, -, hafter⟩ | ⟨-, hafter⟩ | hafter | hkeeps
    · rw [classicalMessage_of_responseOk hresponse, hsigned]
      rfl
    · exact SpdmState.noConfusion (hafter.symm.trans hauth)
    · exact SpdmState.noConfusion (hafter.symm.trans hauth)
    · exact SpdmState.noConfusion (hafter.symm.trans hauth)
    · have hbefore : t.engine.state = .kAuthenticated := hkeeps.state.symm.trans hauth
      have hengine : ((hybridMachine platform).step t i).2.engine = t.engine :=
        hkeeps.engine hbefore
      rw [classicalMessage_of_not_responseOk hkeeps.responseOk, hengine]
      exact ih hbefore

/-! ### The binding -/

variable {clientId : ClientId} {publicKey : PqcSigPublicKey} {signature : PqcSignature}
  {nonce : Nonce} {peerTable : Option (List KnownPeerEntry)} {peerCount : ℕ} {s₀ : σ}
  {is : List HybridInput} {pre post : List (HybridEntry σ)} {e : HybridEntry σ}

/-- **Both signatures are over the same challenge exactly when the caller says so**: in every run, a
confirmation that succeeds found the message signed that the classical signature was over if and
only if the client it was called with is the authenticated one and the nonce is the engine's. -/
theorem sameChallenge_iff
    (hrun : (hybridMachine platform).history (HybridSystem.start peerTable peerCount s₀) is =
      pre ++ e :: post)
    (hinput : e.input = .confirmHybrid clientId publicKey signature nonce)
    (hok : e.output.status = some .kOk) :
    SameChallenge pre e ↔
      clientId = e.before.engine.authenticatedClientId ∧
        nonce = e.before.engine.pendingNonce := by
  obtain ⟨is₁, i, is₂, -, rfl, rfl, -⟩ := (hybridMachine platform).history_eq_append_cons hrun
  obtain rfl : i = .confirmHybrid clientId publicKey signature nonce := hinput
  obtain ⟨hauth, hcalls, -⟩ := confirm_ok hok
  have hlast := lastChallenge_of_authenticated platform
    (HybridSystem.start_not_authenticated peerTable peerCount s₀) is₁ hauth
  have hconfirmed : confirmedMessage ((hybridMachine platform).entry
      ((hybridMachine platform).final (HybridSystem.start peerTable peerCount s₀) is₁)
        (.confirmHybrid clientId publicKey signature nonce)) =
      some (challengeMsg nonce clientId).toList := by
    unfold confirmedMessage
    rw [Machine.entry_output, hybridMachine_step, hcalls]
    rfl
  unfold SameChallenge
  rw [hconfirmed, hlast, ← and_comm (a := nonce = _), ← challengeMsg_inj]
  constructor
  · rintro ⟨message, hmessage, hchallenge⟩
    apply Vector.toList_inj.mp
    exact Option.some.inj (hmessage.trans hchallenge.symm)
  · intro hsame
    exact ⟨_, rfl, congrArg (fun m : Bytes 40 => some m.toList) hsame.symm⟩

/-- `sameChallenge_iff` for the confirmation of a plain handshake. -/
theorem sameChallenge_plainConfirmation :
    SameChallenge ((hybridMachine obligingPlatform).history plainStart plainHandshake)
      ((hybridMachine obligingPlatform).entry
        ((hybridMachine obligingPlatform).final plainStart plainHandshake) plainConfirmation) := by
  have hrun := (hybridMachine obligingPlatform).history_concat plainStart plainHandshake
    plainConfirmation
  exact (sameChallenge_iff hrun rfl (by decide +kernel)).mpr
    ⟨by decide +kernel, by decide +kernel⟩

/-! ### A captured signature -/

/-- A platform that gives another nonce each time, and accepts a post-quantum signature over the
first of them and the zero client, and no other. -/
def capturedPlatform : Platform UInt8 where
  answer
    | count, .nowEpochS => (0, count)
    | count, .generateRandomNonce _ => ((.kOk, Vector.replicate 32 count), count + 1)
    | count, .computeSha256 _ => ((.kOk, Bytes.zeros 32), count)
    | count, .verifyEccSignature _ _ _ => (.kOk, count)
    | count, .deriveSessionKey _ _ => ((.kOk, Bytes.zeros 32), count)
    | count, .pqcVerify _ message _ =>
        (if message = (challengeMsg (Bytes.zeros 32) (Bytes.zeros 8)).toList then .kOk
          else .kVerifyFailed, count)

/-- A new engine that knows the zero client, on that platform. -/
def capturedStart : HybridSystem UInt8 := HybridSystem.start (some plainPeers) 1 0

/-- A session that is confirmed, a reset, and a second handshake. -/
def secondHandshake : List HybridInput :=
  plainHandshake ++ [plainConfirmation, .reset] ++ plainHandshake

/-- **A captured signature confirms a later session**: the confirmation of the second session, with
the arguments of the first, succeeds, and the two signatures are over different challenges. -/
theorem signature_replayed :
    let pre := (hybridMachine capturedPlatform).history capturedStart secondHandshake
    let e := (hybridMachine capturedPlatform).entry
      ((hybridMachine capturedPlatform).final capturedStart secondHandshake) plainConfirmation
    (hybridMachine capturedPlatform).history capturedStart
        (secondHandshake ++ [plainConfirmation]) = pre ++ [e] ∧
      ConfirmOk e ∧ ¬ SameChallenge pre e := by
  intro pre e
  refine ⟨(hybridMachine capturedPlatform).history_concat _ _ _, ⟨⟨_, _, _, _, rfl⟩, ?_⟩, ?_⟩
  · decide +kernel
  · rintro ⟨message, hconfirmed, hchallenge⟩
    have hsame : confirmedMessage e = lastChallenge pre := hconfirmed.trans hchallenge.symm
    exact absurd hsame (by decide +kernel)

end binding

end SotifPlausibility.Zzta
