import SotifPlausibility.Zzta.HybridSessions
import SotifPlausibility.Zzta.NonceSequence
import SotifPlausibility.Zzta.Sha256

/-!
# Handshakes over the software provider

An engine whose platform is the software provider, over whole runs.

* `softwareStep_cases` — a request that succeeds takes the next challenge of the provider; nothing
  else moves the provider.
* `challenges_of_run` — the challenges of a run are the first of the provider's sequence.
* `response_ok_iff` — which response is accepted.
* `replay_accepted_iff` — when a recorded response is accepted again.

Source: `SpdmProtocolEngine.cpp`; `CryptoPlatformInterface.cpp`, `SoftwareCryptoProvider`.
-/

namespace SotifPlausibility.Zzta

open SotifPlausibility.Found Function

/-- An engine over the software provider. -/
abbrev SoftwareSystem := HybridSystem SoftwareCryptoProvider

/-- A step of such a run. -/
abbrev SoftwareEntry := HybridEntry SoftwareCryptoProvider

/-- The challenge a step sent. -/
def sentChallenge (e : SoftwareEntry) : Option Nonce :=
  match e.input with
  | .processAuthRequest _ =>
      if e.output.status = some .kOk then some e.after.engine.pendingNonce else none
  | _ => none

/-- The challenges sent in a run, oldest first. -/
def sentChallenges (h : List SoftwareEntry) : List Nonce := h.filterMap sentChallenge

section software

variable (now : UInt32) (pqc : PqcSigPublicKey → List UInt8 → PqcSignature → CryptoStatus)

/-- The machine of an engine and its gate over the software provider. -/
def softwareMachine : Machine SoftwareSystem HybridInput HybridOutput :=
  hybridMachine (softwarePlatform now pqc)

variable {s : SoftwareSystem}

/-! ### Steps -/

/-- A request succeeds with the next challenge of the provider, or changes nothing. -/
theorem processAuthRequest_software (engine : SpdmProtocolEngine)
    (provider : SoftwareCryptoProvider) (request : SpdmAuthRequest) :
    let ran := (engine.processAuthRequest request).run (softwarePlatform now pqc) provider
    (ran.value.status = .kOk ∧
        ran.oracle = (provider.generateRandomNonce engine.pendingNonce).2 ∧
        ran.value.engine =
          { engine with pendingNonce := (provider.generateRandomNonce engine.pendingNonce).1
                        pendingClientId := request.clientId, state := .kChallengeSent }) ∨
      (ran.value.status ≠ .kOk ∧ ran.oracle = provider ∧ ran.value.engine = engine) := by
  unfold SpdmProtocolEngine.processAuthRequest
  split_ifs with hstate hauth hversion hpeer
  · exact Or.inr ⟨SpdmStatus.noConfusion, rfl, rfl⟩
  · exact Or.inr ⟨SpdmStatus.noConfusion, rfl, rfl⟩
  · exact Or.inr ⟨SpdmStatus.noConfusion, rfl, rfl⟩
  · exact Or.inr ⟨SpdmStatus.noConfusion, rfl, rfl⟩
  · exact Or.inl ⟨rfl, rfl, rfl⟩

/-- The challenge and the client whose digest a response has to sign. -/
def SpdmProtocolEngine.challengeDigest (engine : SpdmProtocolEngine) : Sha256Digest :=
  sha256Impl (challengeMsg engine.pendingNonce engine.pendingClientId).toList

/-- The engine accepts a response: a challenge is in flight, the response comes from the client it
was sent to, that client is known by the key of the provider, and the signature is the one the
provider expects. -/
def SpdmProtocolEngine.Accepts (engine : SpdmProtocolEngine) (response : SpdmAuthResponse) : Prop :=
  engine.state = .kChallengeSent ∧ response.clientId = engine.pendingClientId ∧
    engine.findPeerPublicKey response.clientId = some kMockEccPublicKey ∧
    response.signature = signDigestMock engine.challengeDigest

/-- The software provider hashes every text but the empty one. -/
theorem answer_computeSha256 {data : List UInt8} (h : data ≠ [])
    (provider : SoftwareCryptoProvider) :
    (softwarePlatform now pqc).answer provider (.computeSha256 data) =
      ((.kOk, sha256Impl data), provider) :=
  if_neg h

/-- A response is accepted, or refused without a challenge in flight, or it revokes the session. -/
theorem processAuthResponse_software (engine : SpdmProtocolEngine)
    (provider : SoftwareCryptoProvider) (response : SpdmAuthResponse) (token : SpdmSessionToken) :
    let ran := (engine.processAuthResponse response token).run (softwarePlatform now pqc) provider
    ran.oracle = provider ∧
      ((engine.Accepts response ∧ ran.value.status = .kOk ∧
          ran.value.engine = { engine with authenticatedClientId := response.clientId
                                           state := .kAuthenticated } ∧
          ran.value.sessionTokenOut =
            { clientId := response.clientId, sessionNonce := engine.pendingNonce
              sessionKey := SoftwareCryptoProvider.deriveSessionKey engine.pendingNonce
                response.clientId }) ∨
        (¬ engine.Accepts response ∧ ran.value.status ≠ .kOk ∧ ran.value.sessionTokenOut = token ∧
          (ran.value.engine = engine.revoke ∨
            (engine.state ≠ .kChallengeSent ∧ ran.value.engine = engine)))) := by
  have hmsg : ∀ nonce clientId, (challengeMsg nonce clientId).toList ≠ [] := by
    intro nonce clientId hnil
    exact absurd (congrArg List.length hnil) (by simp)
  unfold SpdmProtocolEngine.processAuthResponse
  by_cases hstate : engine.state = .kChallengeSent
  swap
  · rw [if_pos hstate]
    exact ⟨rfl, Or.inr ⟨fun h => hstate h.1, SpdmStatus.noConfusion, rfl, Or.inr ⟨hstate, rfl⟩⟩⟩
  rw [if_neg (not_not.mpr hstate)]
  by_cases hclient : response.clientId = engine.pendingClientId
  swap
  · rw [if_pos (mt clientIdDiff_eq_zero_iff.mp hclient)]
    exact ⟨rfl, Or.inr ⟨fun h => hclient h.2.1, SpdmStatus.noConfusion, rfl, Or.inl rfl⟩⟩
  rw [if_neg (not_not.mpr (clientIdDiff_eq_zero_iff.mpr hclient))]
  cases hpeer : engine.findPeerPublicKey response.clientId with
  | none =>
      refine ⟨rfl, Or.inr ⟨?_, SpdmStatus.noConfusion, rfl, Or.inl rfl⟩⟩
      intro h
      exact absurd (hpeer.symm.trans h.2.2.1) (by simp)
  | some key =>
      have hdigest : engine.challengeDigest =
          sha256Impl (challengeMsg engine.pendingNonce response.clientId).toList := by
        rw [SpdmProtocolEngine.challengeDigest, hclient]
      have haccepts : engine.Accepts response ↔
          SoftwareCryptoProvider.verifyEccSignature
            (sha256Impl (challengeMsg engine.pendingNonce response.clientId).toList)
            response.signature key = .kOk := by
        rw [verifyEccSignature_ok_iff, ← hdigest, SpdmProtocolEngine.Accepts, hpeer,
          Option.some.injEq]
        exact ⟨fun h => ⟨h.2.2.1, h.2.2.2⟩, fun h => ⟨hstate, hclient, h.1, h.2⟩⟩
      rw [haccepts]
      dsimp only
      rw [computeSha256, OracleProg.run_bind, OracleProg.run_call,
        answer_computeSha256 now pqc (hmsg _ _)]
      dsimp only
      rw [if_neg (by simp), verifyEccSignature, OracleProg.run_bind, OracleProg.run_call]
      dsimp only [softwarePlatform]
      by_cases hverify : SoftwareCryptoProvider.verifyEccSignature
          (sha256Impl (challengeMsg engine.pendingNonce response.clientId).toList)
          response.signature key = .kOk
      · rw [if_neg (not_not.mpr hverify)]
        exact ⟨rfl, Or.inl ⟨hverify, rfl, rfl, rfl⟩⟩
      · rw [if_pos hverify]
        refine ⟨rfl, Or.inr ⟨hverify, ?_, rfl, Or.inl rfl⟩⟩
        rw [OracleProg.run_pure]
        dsimp only
        split_ifs <;> exact SpdmStatus.noConfusion

/-- A confirmation leaves the provider alone, and the engine, or it revokes the session. -/
theorem confirmHybrid_software (engine : SpdmProtocolEngine) (provider : SoftwareCryptoProvider)
    (clientId : ClientId) (publicKey : PqcSigPublicKey) (signature : PqcSignature)
    (nonce : Nonce) :
    let ran := (HybridAuthGate.confirmHybrid engine clientId publicKey signature nonce).run
      (softwarePlatform now pqc) provider
    ran.oracle = provider ∧ (ran.value.engine = engine ∨ ran.value.engine = engine.revoke) := by
  unfold HybridAuthGate.confirmHybrid
  split_ifs with hstate
  · exact ⟨rfl, Or.inl rfl⟩
  · rw [pqcVerify, OracleProg.run_bind, OracleProg.run_call]
    dsimp only [softwarePlatform]
    split_ifs with hstatus
    · exact ⟨rfl, Or.inl rfl⟩
    · exact ⟨rfl, Or.inr rfl⟩

/-- **What a step does to the provider and the challenge**: a request that succeeds takes the next
challenge; every other step leaves the provider alone, and a challenge that is still in flight. -/
theorem softwareStep_cases (i : HybridInput) :
    let e := (softwareMachine now pqc).entry s i
    e.after.engine.peerTable = s.engine.peerTable ∧
      e.after.engine.peerCount = s.engine.peerCount ∧
      ((∃ nonce, sentChallenge e = some nonce ∧
          (nonce, e.after.platform) = s.platform.generateRandomNonce s.engine.pendingNonce ∧
          e.after.engine.pendingNonce = nonce) ∨
        (sentChallenge e = none ∧ e.after.platform = s.platform ∧
          (e.after.engine.state = .kChallengeSent →
            s.engine.state = .kChallengeSent ∧
              e.after.engine.pendingNonce = s.engine.pendingNonce))) := by
  intro e
  cases i with
  | processAuthRequest request =>
      rcases processAuthRequest_software now pqc s.engine s.platform request with
        ⟨hstatus, horacle, hengine⟩ | ⟨hstatus, horacle, hengine⟩
      · have hafter : e.after.engine = _ := hengine
        have hprovider : e.after.platform = _ := horacle
        have hsent : sentChallenge e = some e.after.engine.pendingNonce :=
          if_pos (congrArg some hstatus)
        rw [hafter] at hsent ⊢
        exact ⟨rfl, rfl, Or.inl ⟨_, hsent, by rw [hprovider], rfl⟩⟩
      · have hafter : e.after.engine = s.engine := hengine
        have hsent : sentChallenge e = none := if_neg (mt Option.some.inj hstatus)
        rw [hafter]
        exact ⟨rfl, rfl, Or.inr ⟨hsent, horacle, fun h => ⟨h, rfl⟩⟩⟩
  | processAuthResponse response token =>
      obtain ⟨horacle, ⟨-, -, hengine, -⟩ | ⟨-, -, -, hengine | ⟨-, hengine⟩⟩⟩ :=
        processAuthResponse_software now pqc s.engine s.platform response token
      · have hafter : e.after.engine = _ := hengine
        rw [hafter]
        exact ⟨rfl, rfl, Or.inr ⟨rfl, horacle, fun h => SpdmState.noConfusion h⟩⟩
      · have hafter : e.after.engine = _ := hengine
        rw [hafter]
        exact ⟨rfl, rfl, Or.inr ⟨rfl, horacle, fun h => SpdmState.noConfusion h⟩⟩
      · have hafter : e.after.engine = _ := hengine
        rw [hafter]
        exact ⟨rfl, rfl, Or.inr ⟨rfl, horacle, fun h => ⟨h, rfl⟩⟩⟩
  | revoke => exact ⟨rfl, rfl, Or.inr ⟨rfl, rfl, fun h => SpdmState.noConfusion h⟩⟩
  | reset => exact ⟨rfl, rfl, Or.inr ⟨rfl, rfl, fun h => SpdmState.noConfusion h⟩⟩
  | confirmHybrid clientId publicKey signature nonce =>
      obtain ⟨horacle, hengine | hengine⟩ := confirmHybrid_software now pqc
        s.engine s.platform clientId publicKey signature nonce
      · have hafter : e.after.engine = _ := hengine
        rw [hafter]
        exact ⟨rfl, rfl, Or.inr ⟨rfl, horacle, fun h => ⟨h, rfl⟩⟩⟩
      · have hafter : e.after.engine = _ := hengine
        rw [hafter]
        exact ⟨rfl, rfl, Or.inr ⟨rfl, horacle, fun h => SpdmState.noConfusion h⟩⟩

/-- The engine accepts the response it is waiting for, and it alone. -/
theorem responseOk_iff_accepts (response : SpdmAuthResponse) (token : SpdmSessionToken) :
    ResponseOk ((softwareMachine now pqc).entry s (.processAuthResponse response token)) ↔
      s.engine.Accepts response := by
  obtain ⟨-, ⟨haccepts, hstatus, -⟩ | ⟨haccepts, hstatus, -⟩⟩ :=
    processAuthResponse_software now pqc s.engine s.platform response token
  · exact iff_of_true ⟨⟨response, token, rfl⟩, congrArg some hstatus⟩ haccepts
  · exact iff_of_false (fun h => hstatus (Option.some.inj h.2)) haccepts

/-- **Which response is accepted**: the one the engine is waiting for, and it alone. It
authenticates its client, and what it hands out is the key of the challenge and the client; any
other response hands out nothing, authenticates nobody and leaves the client that was authenticated
last. -/
theorem response_ok_iff (response : SpdmAuthResponse) (token : SpdmSessionToken) :
    let e := (softwareMachine now pqc).entry s (.processAuthResponse response token)
    (ResponseOk e ↔ s.engine.Accepts response) ∧
      (ResponseOk e →
        e.after.engine.state = .kAuthenticated ∧
        e.after.engine.authenticatedClientId = response.clientId ∧
        e.output.sessionTokenOut = some
          { clientId := response.clientId, sessionNonce := s.engine.pendingNonce
            sessionKey := SoftwareCryptoProvider.deriveSessionKey s.engine.pendingNonce
              response.clientId }) ∧
      (¬ ResponseOk e → e.output.sessionTokenOut = some token ∧
        e.after.engine.authenticatedClientId = s.engine.authenticatedClientId ∧
        (e.after.engine.state = .kAuthenticated → s.engine.state = .kAuthenticated)) := by
  intro e
  have hiff := responseOk_iff_accepts now pqc (s := s) response token
  refine ⟨hiff, ?_, ?_⟩
  · intro hok
    obtain ⟨-, ⟨-, -, hengine, htoken⟩ | ⟨hrefused, -⟩⟩ :=
      processAuthResponse_software now pqc s.engine s.platform response token
    · have hafter : e.after.engine = _ := hengine
      rw [hafter]
      exact ⟨rfl, rfl, congrArg some htoken⟩
    · exact absurd (hiff.mp hok) hrefused
  · intro hnot
    obtain ⟨-, ⟨haccepts, -⟩ | ⟨-, -, htoken, hengine⟩⟩ :=
      processAuthResponse_software now pqc s.engine s.platform response token
    · exact absurd (hiff.mpr haccepts) hnot
    · refine ⟨congrArg some htoken, ?_⟩
      obtain hengine | ⟨-, hengine⟩ := hengine
      · have hafter : e.after.engine = _ := hengine
        rw [hafter]
        exact ⟨rfl, fun h => SpdmState.noConfusion h⟩
      · have hafter : e.after.engine = _ := hengine
        rw [hafter]
        exact ⟨rfl, id⟩

/-! ### Runs -/

/-- What every step keeps: the challenges sent are the first of the provider, which stands behind
them; a challenge in flight is the last of them; and the engine knows the peers it started with. -/
structure ChallengeInv (start : SoftwareSystem) (h : List SoftwareEntry) (t : SoftwareSystem) :
    Prop where
  peerTable : t.engine.peerTable = start.engine.peerTable
  peerCount : t.engine.peerCount = start.engine.peerCount
  sent : sentChallenges h = (List.range (sentChallenges h).length).map start.platform.nonceAt
  state : t.platform.lfsrState =
    (SoftwareCryptoProvider.next^[(sentChallenges h).length] start.platform).lfsrState
  pending : t.engine.state = .kChallengeSent →
    (sentChallenges h).getLast? = some t.engine.pendingNonce

/-- Every run keeps it. -/
theorem challengeInv_run {start : SoftwareSystem} (hstart : start.engine.state ≠ .kChallengeSent)
    (is : List HybridInput) :
    ChallengeInv start ((softwareMachine now pqc).history start is)
      ((softwareMachine now pqc).final start is) := by
  apply (softwareMachine now pqc).run_induction
  · exact ⟨rfl, rfl, rfl, rfl, fun h => absurd h hstart⟩
  · intro h t i inv
    obtain ⟨hpeers, hcount, ⟨nonce, hsent, hfill, hpending⟩ | ⟨hsent, hprovider, hpending⟩⟩ :=
      softwareStep_cases now pqc (s := t) i
    · have hconcat : sentChallenges (h ++ [(softwareMachine now pqc).entry t i]) =
          sentChallenges h ++ [nonce] := by
        rw [sentChallenges, filterMap_concat, hsent]
        rfl
      have hnonce : nonce = start.platform.nonceAt (sentChallenges h).length := by
        rw [(Prod.mk.inj hfill).1]
        exact (t.platform.generateRandomNonce_eq_iff _ _ _).mpr inv.state
      refine ⟨hpeers.trans inv.peerTable, hcount.trans inv.peerCount, ?_, ?_, ?_⟩
      · rw [hconcat, List.length_append, List.length_singleton, List.range_succ, List.map_append,
          ← inv.sent, hnonce]
        rfl
      · rw [hconcat, List.length_append, List.length_singleton, iterate_succ_apply',
          SoftwareCryptoProvider.next, SoftwareCryptoProvider.lfsrState_generateRandomNonce,
          ← inv.state, ← t.platform.lfsrState_generateRandomNonce t.engine.pendingNonce]
        exact congrArg _ (Prod.mk.inj hfill).2
      · intro _
        rw [hconcat, List.getLast?_concat]
        exact congrArg some hpending.symm
    · have hconcat : sentChallenges (h ++ [(softwareMachine now pqc).entry t i]) =
          sentChallenges h := by
        rw [sentChallenges, filterMap_concat, hsent]
        exact List.append_nil _
      rw [Machine.entry_after] at hprovider hpending hpeers hcount
      refine ⟨hpeers.trans inv.peerTable, hcount.trans inv.peerCount, ?_, ?_, ?_⟩
      · rw [hconcat]
        exact inv.sent
      · rw [hconcat, hprovider]
        exact inv.state
      · intro hstate
        rw [hconcat, (hpending hstate).2]
        exact inv.pending (hpending hstate).1

section results

variable (peerTable : Option (List KnownPeerEntry)) (peerCount : ℕ) (seed : UInt32)

/-- An engine with the given peers over a provider with the given seed. -/
def softwareStart : SoftwareSystem :=
  HybridSystem.start peerTable peerCount (SoftwareCryptoProvider.new seed)

/-- The challenges of a run, and how many they are. -/
def challengesOf (is : List HybridInput) : List Nonce :=
  sentChallenges ((softwareMachine now pqc).history (softwareStart peerTable peerCount seed) is)

/-- A run of a new engine keeps it. -/
theorem challengeInv_start (is : List HybridInput) :
    ChallengeInv (softwareStart peerTable peerCount seed)
      ((softwareMachine now pqc).history (softwareStart peerTable peerCount seed) is)
      ((softwareMachine now pqc).final (softwareStart peerTable peerCount seed) is) :=
  challengeInv_run now pqc SpdmState.noConfusion is

/-- A challenge of a run is the one of its number. -/
theorem nonceAt_of_sent (is : List HybridInput) {k : ℕ} {nonce : Nonce}
    (h : (challengesOf now pqc peerTable peerCount seed is)[k]? = some nonce) :
    nonce = (SoftwareCryptoProvider.new seed).nonceAt k := by
  unfold challengesOf at h
  rw [(challengeInv_start now pqc peerTable peerCount seed is).sent] at h
  obtain ⟨hk, hnonce⟩ := List.getElem?_eq_some_iff.mp h
  simp only [List.getElem_map, List.getElem_range] at hnonce
  exact hnonce.symm

/-- A challenge in flight is the last that was sent. -/
theorem pendingNonce_of_challengeSent {is : List HybridInput}
    (h : ((softwareMachine now pqc).final (softwareStart peerTable peerCount seed)
      is).engine.state = .kChallengeSent) :
    ∃ k, (challengesOf now pqc peerTable peerCount seed is).length = k + 1 ∧
      ((softwareMachine now pqc).final (softwareStart peerTable peerCount seed)
        is).engine.pendingNonce = (SoftwareCryptoProvider.new seed).nonceAt k := by
  have hlast := (challengeInv_start now pqc peerTable peerCount seed is).pending h
  have hne : challengesOf now pqc peerTable peerCount seed is ≠ [] := by
    intro hnil
    rw [challengesOf] at hnil
    rw [hnil] at hlast
    exact absurd hlast (by simp)
  obtain ⟨k, hk⟩ := Nat.exists_eq_succ_of_ne_zero (mt List.eq_nil_of_length_eq_zero hne)
  refine ⟨k, hk, ?_⟩
  rw [List.getLast?_eq_getElem?] at hlast
  apply nonceAt_of_sent now pqc peerTable peerCount seed is
  rw [challengesOf] at hk ⊢
  rw [hk] at hlast
  exact hlast

/-- **When the challenges of a run repeat.** The period of a seed divides 1023 · 131071 and is a
multiple of 31 or of 131071; for the seed of a provider that is given none it is 134085633. In every
run, whatever is called in between, two challenges are equal exactly when their numbers are
congruent by it. -/
theorem challenges_repeat :
    challengePeriod seed ∣ 1023 * 131071 ∧
      (31 ∣ challengePeriod seed ∨ 131071 ∣ challengePeriod seed) ∧
      challengePeriod SoftwareCryptoProvider.kDefaultSeed = 134085633 ∧
      ∀ is : List HybridInput,
        let sent := challengesOf now pqc peerTable peerCount seed is
        ∀ j k : Fin sent.length,
          sent.get j = sent.get k ↔
            (j : ℕ) % challengePeriod seed = (k : ℕ) % challengePeriod seed := by
  refine ⟨challengePeriod_dvd seed, dvd_challengePeriod seed, challengePeriod_default, ?_⟩
  intro is sent j k
  have hget : ∀ n : Fin sent.length,
      sent.get n = (SoftwareCryptoProvider.new seed).nonceAt n := by
    intro n
    exact nonceAt_of_sent now pqc peerTable peerCount seed is (List.getElem?_eq_getElem n.isLt)
  rw [hget, hget, nonceAt_new_eq_iff]

/-- Two signatures the provider expects are equal exactly when the digests are, or when the
compression function collides on both halves. -/
theorem signDigestMock_eq_iff {digest digest' : Sha256Digest} :
    signDigestMock digest = signDigestMock digest' ↔
      digest = digest' ∨
        (Collides (digest.toList ++ kMockMasterSalt.toList)
            (digest'.toList ++ kMockMasterSalt.toList) ∧
          Collides (kMockMasterSalt.toList ++ digest.toList)
            (kMockMasterSalt.toList ++ digest'.toList)) := by
  have hparts : signDigestMock digest = signDigestMock digest' ↔
      rPart digest = rPart digest' ∧ sPart digest = sPart digest' := by
    constructor
    · intro h
      rw [← load_signDigestMock_fst, ← load_signDigestMock_fst, ← load_signDigestMock_snd,
        ← load_signDigestMock_snd, h]
      exact ⟨rfl, rfl⟩
    · rintro ⟨hfst, hsnd⟩
      unfold signDigestMock
      rw [hfst, hsnd]
  have hfst : digest.toList ++ kMockMasterSalt.toList =
      digest'.toList ++ kMockMasterSalt.toList ↔ digest = digest' := by
    rw [List.append_left_inj, Vector.toList_inj]
  have hsnd : kMockMasterSalt.toList ++ digest.toList =
      kMockMasterSalt.toList ++ digest'.toList ↔ digest = digest' := by
    rw [List.append_right_inj, Vector.toList_inj]
  rw [hparts, rPart, rPart, sPart, sPart, sha256_eq_iff (by simp) (by simp),
    sha256_eq_iff (by simp) (by simp), hfst, hsnd, ← or_and_left]

variable {peerTable peerCount seed}

/-- **When a recorded response is accepted again.** Let one run end with a response that is
accepted, and another of the same engine with a challenge in flight for the same client. There the
same response is accepted exactly when as many challenges were sent, up to multiples of the period
of the seed, or when the compression function collides on what is signed. -/
theorem replay_accepted_iff {is js : List HybridInput} {response : SpdmAuthResponse}
    {token : SpdmSessionToken} (token' : SpdmSessionToken)
    (hs : ResponseOk ((softwareMachine now pqc).entry
      ((softwareMachine now pqc).final (softwareStart peerTable peerCount seed) is)
      (.processAuthResponse response token)))
    (ht : ((softwareMachine now pqc).final (softwareStart peerTable peerCount seed)
      js).engine.state = .kChallengeSent)
    (hclient : ((softwareMachine now pqc).final (softwareStart peerTable peerCount seed)
      js).engine.pendingClientId = response.clientId) :
    let s := (softwareMachine now pqc).final (softwareStart peerTable peerCount seed) is
    let t := (softwareMachine now pqc).final (softwareStart peerTable peerCount seed) js
    ResponseOk ((softwareMachine now pqc).entry t (.processAuthResponse response token')) ↔
      (challengesOf now pqc peerTable peerCount seed is).length % challengePeriod seed =
          (challengesOf now pqc peerTable peerCount seed js).length % challengePeriod seed ∨
        Collides (challengeMsg s.engine.pendingNonce response.clientId).toList
          (challengeMsg t.engine.pendingNonce response.clientId).toList ∨
        (Collides (s.engine.challengeDigest.toList ++ kMockMasterSalt.toList)
            (t.engine.challengeDigest.toList ++ kMockMasterSalt.toList) ∧
          Collides (kMockMasterSalt.toList ++ s.engine.challengeDigest.toList)
            (kMockMasterSalt.toList ++ t.engine.challengeDigest.toList)) := by
  intro s t
  have hinvS := challengeInv_start now pqc peerTable peerCount seed is
  have hinvT := challengeInv_start now pqc peerTable peerCount seed js
  obtain ⟨hstate, hclientS, hpeer, hsignature⟩ :=
    (responseOk_iff_accepts now pqc response token).mp hs
  have hpeerT : t.engine.findPeerPublicKey response.clientId = some kMockEccPublicKey := by
    have hsame : t.engine.findPeerPublicKey response.clientId =
        s.engine.findPeerPublicKey response.clientId := by
      unfold SpdmProtocolEngine.findPeerPublicKey
      rw [hinvT.peerTable, hinvT.peerCount, hinvS.peerTable, hinvS.peerCount]
    exact hsame.trans hpeer
  have haccepts : t.engine.Accepts response ↔
      signDigestMock s.engine.challengeDigest = signDigestMock t.engine.challengeDigest := by
    rw [← hsignature]
    exact ⟨fun h => h.2.2.2, fun h => ⟨ht, hclient.symm, hpeerT, h⟩⟩
  obtain ⟨j, hj, hnonceS⟩ := pendingNonce_of_challengeSent now pqc peerTable peerCount seed hstate
  obtain ⟨k, hk, hnonceT⟩ := pendingNonce_of_challengeSent now pqc peerTable peerCount seed ht
  have hnumbers : s.engine.pendingNonce = t.engine.pendingNonce ↔
      (j + 1) % challengePeriod seed = (k + 1) % challengePeriod seed := by
    rw [hnonceS, hnonceT, nonceAt_new_eq_iff]
    exact ⟨fun h => Nat.ModEq.add_right 1 h, fun h => Nat.ModEq.add_right_cancel' 1 h⟩
  have hmsg : (challengeMsg s.engine.pendingNonce response.clientId).toList =
      (challengeMsg t.engine.pendingNonce response.clientId).toList ↔
        s.engine.pendingNonce = t.engine.pendingNonce := by
    rw [Vector.toList_inj, challengeMsg_inj]
    exact and_iff_left rfl
  have hdigest : s.engine.challengeDigest = t.engine.challengeDigest ↔
      (j + 1) % challengePeriod seed = (k + 1) % challengePeriod seed ∨
        Collides (challengeMsg s.engine.pendingNonce response.clientId).toList
          (challengeMsg t.engine.pendingNonce response.clientId).toList := by
    rw [SpdmProtocolEngine.challengeDigest, SpdmProtocolEngine.challengeDigest, ← hclientS, hclient,
      sha256_eq_iff (by simp) (by simp), hmsg, hnumbers]
  rw [responseOk_iff_accepts now pqc response token', haccepts, signDigestMock_eq_iff, hdigest,
    hj, hk, or_assoc]

end results

end software

/-! ### A replay -/

/-- The zero client, pinned to the key of the provider. -/
def mockPeers : List KnownPeerEntry :=
  [{ clientId := Bytes.zeros 8, publicKey := kMockEccPublicKey }]

/-- A request of the zero client. -/
def mockRequest : HybridInput :=
  .processAuthRequest { clientId := Bytes.zeros 8, version := kSupportedVersion }

/-- Thirty-one requests, each given up, and one more. -/
def laterRequests : List HybridInput :=
  (List.replicate 31 [mockRequest, .reset]).flatten ++ [mockRequest]

/-- The software provider where no post-quantum signature is accepted. -/
def mockMachine : Machine SoftwareSystem HybridInput HybridOutput :=
  softwareMachine 100 fun _ _ _ => .kVerifyFailed

/-- An engine over a weak seed. -/
def weakStart : SoftwareSystem := softwareStart (some mockPeers) 1 0x12D0C9F7

/-- The response to the first challenge. -/
def firstResponse : SpdmAuthResponse :=
  { clientId := Bytes.zeros 8
    signature := signDigestMock (mockMachine.final weakStart [mockRequest]).engine.challengeDigest }

/-- An empty token. -/
def mockToken : SpdmSessionToken :=
  { clientId := Bytes.zeros 8, sessionNonce := Bytes.zeros 32, sessionKey := Bytes.zeros 32 }

/-- `replay_accepted_iff` for a weak seed: the response to the first challenge is accepted again 31
challenges later. -/
theorem replay_accepted_weak :
    ResponseOk (mockMachine.entry (mockMachine.final weakStart laterRequests)
      (.processAuthResponse firstResponse mockToken)) := by
  have hpeer : (mockMachine.final weakStart [mockRequest]).engine.findPeerPublicKey
      (Bytes.zeros 8) = some kMockEccPublicKey := by decide +kernel
  have hpending : (mockMachine.final weakStart [mockRequest]).engine.pendingClientId =
      Bytes.zeros 8 := by
    decide +kernel
  have hfirst : ResponseOk (mockMachine.entry (mockMachine.final weakStart [mockRequest])
      (.processAuthResponse firstResponse mockToken)) :=
    (responseOk_iff_accepts _ _ firstResponse mockToken).mpr
      ⟨by decide +kernel, hpending.symm, hpeer, rfl⟩
  have hstate : (mockMachine.final weakStart laterRequests).engine.state = .kChallengeSent := by
    decide +kernel
  have hclient : (mockMachine.final weakStart laterRequests).engine.pendingClientId =
      Bytes.zeros 8 := by
    decide +kernel
  have hone : (sentChallenges (mockMachine.history weakStart [mockRequest])).length = 1 := by
    decide +kernel
  have hlater : (sentChallenges (mockMachine.history weakStart laterRequests)).length = 32 := by
    decide +kernel
  have hmod : (sentChallenges (mockMachine.history weakStart [mockRequest])).length %
        challengePeriod 0x12D0C9F7 =
      (sentChallenges (mockMachine.history weakStart laterRequests)).length %
        challengePeriod 0x12D0C9F7 := by
    rw [hone, hlater, challengePeriod_weak]
  unfold mockMachine weakStart at hfirst hstate hclient
  exact (@replay_accepted_iff 100 (fun _ _ _ => .kVerifyFailed) (some mockPeers) 1 0x12D0C9F7
    [mockRequest] laterRequests firstResponse mockToken mockToken hfirst hstate hclient).mpr
      (Or.inl hmod)

end SotifPlausibility.Zzta
