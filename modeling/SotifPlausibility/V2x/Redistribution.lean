import SotifPlausibility.V2x.Publication

/-!
# Redistribution of an advisory

An advisory event can be put into a frame again, for other units of the vehicle. Such a frame is
not signed.

* `serialise_cases` — the three ways `Serialise` ends.
* `received_serialise` — the bytes in use of the frame are those of the event.
* `VerifiedAdvisory` — the form of an event that the adapter published;
  `serialise_ok_iff` — the ids decide alone, and published events have the form.
* `AdvisoryEvent`, `readAdvisory` — what there is to an advisory event, and how to read it from a
  redistributed frame.
* `redistribution` — nothing of a published event is lost, and no redistributed frame is accepted
  again.

Source: `V2xNetworkAdapter.cpp`, `V2xNetworkAdapter::Serialise` and
`V2xNetworkAdapter::UnpackWireFrame`.
-/

namespace SotifPlausibility.V2x

open SotifPlausibility.Found SotifPlausibility.Soa SotifPlausibility.Zzta

/-! ### Putting an event into a frame -/

section serialise

/-- The bytes of a frame that are in use. -/
def WireFrame.received (frame : WireFrame) : List UInt8 := frame.data.toList.take frame.length.toNat

/-- The bytes of an event's payload that are in use. -/
def content (event : SoaEvent) : List UInt8 := event.payload.toList.take event.payloadLen.toNat

/-- The event has the ids of an advisory. -/
def HasAdvisoryIds (event : SoaEvent) : Prop :=
  event.serviceId = 0x1900 ∧ event.eventId = 0x1901

variable {adapter : V2xNetworkAdapter} {event : SoaEvent} {prior out : WireFrame}

/-- **What `Serialise` does**: it refuses, and leaves the frame alone, or it puts the bytes in use
at the start of the frame. -/
theorem serialise_cases (adapter : V2xNetworkAdapter) (event : SoaEvent) (prior : WireFrame) :
    (¬ adapter.initialised = true ∧
        adapter.serialise event prior = (.err .kNotInitialized, prior)) ∨
      (¬ HasAdvisoryIds event ∧
        adapter.serialise event prior = (.err .kInvalidArgument, prior)) ∨
      (adapter.initialised = true ∧ HasAdvisoryIds event ∧
        adapter.serialise event prior =
          (.ok,
            { data := prior.data.store 0
                (event.payload.load 0 event.payloadLen.toNat event.payloadLen_within)
              length := event.payloadLen.toUInt16 })) := by
  unfold V2xNetworkAdapter.serialise
  split_ifs with hinit hids
  · exact Or.inl ⟨Bool.eq_false_iff.mp hinit, rfl⟩
  · refine Or.inr (Or.inl ⟨?_, rfl⟩)
    rintro ⟨hservice, hevent⟩
    exact hids.elim (absurd hservice) (absurd hevent)
  · refine Or.inr (Or.inr ⟨by simpa using hinit, ?_, rfl⟩)
    exact ⟨not_not.mp fun h => hids (Or.inl h), not_not.mp fun h => hids (Or.inr h)⟩

/-- A frame that `Serialise` filled has the length of the event. -/
theorem length_serialise (h : adapter.serialise event prior = (.ok, out)) :
    out.length.toNat = event.payloadLen.toNat := by
  rcases serialise_cases adapter event prior with ⟨-, hres⟩ | ⟨-, hres⟩ | ⟨-, -, hres⟩
  · simp [hres] at h
  · simp [hres] at h
  · obtain rfl := (Prod.mk.inj (hres.symm.trans h)).2
    exact UInt8.toNat_toUInt16 _

/-- **The bytes in use of the frame are those of the event**, whatever the frame held before. -/
theorem received_serialise (h : adapter.serialise event prior = (.ok, out)) :
    out.received = content event := by
  unfold WireFrame.received content
  rw [length_serialise h]
  rcases serialise_cases adapter event prior with ⟨-, hres⟩ | ⟨-, hres⟩ | ⟨-, -, hres⟩
  · simp [hres] at h
  · simp [hres] at h
  · obtain rfl := (Prod.mk.inj (hres.symm.trans h)).2
    have hlen := event.payloadLen.toNat_lt
    rw [Bytes.take_toList_store _ _ (by omega), Bytes.toList_load, List.drop_zero]

/-- A redistributed frame is too short to be a frame from the radio. -/
theorem not_wellFormed_serialise (h : adapter.serialise event prior = (.ok, out)) :
    ¬ WellFormed out := by
  intro hframe
  have hlen := length_serialise h
  rw [hframe.1] at hlen
  have hlt := event.payloadLen.toNat_lt
  have h468 : (468 : UInt16).toNat = 468 := rfl
  omega

end serialise

/-! ### What may be redistributed -/

section verified

/-- The form of an advisory event that the adapter published: its length, the status of trust, and
the time stamp as the session. -/
structure VerifiedAdvisory (event : SoaEvent) : Prop where
  ids : HasAdvisoryIds event
  payloadLen : event.payloadLen = 25
  trust : event.payload.load 24 1 = #v[0]
  sessionId : event.sessionId.toNat = (event.payload.load 12 4).leNat

/-- What is published has this form. -/
theorem Published.verifiedAdvisory {f : Bytes 1472} {pubKeyDigest : Sha256Digest}
    {event : SoaEvent} (h : Published f pubKeyDigest event) : VerifiedAdvisory event where
  ids := ⟨h.serviceId, h.eventId⟩
  payloadLen := h.payloadLen
  trust := h.trust
  sessionId := by
    have hstamp := congrArg (fun b : Bytes 16 => (b.load 12 4).leNat) h.signed
    simp only [Bytes.load_load] at hstamp
    exact h.sessionId.trans hstamp.symm

/-- A run that succeeds publishes an event of this form. -/
theorem verifiedAdvisory_of_ok {σ : Type} {platform : Platform σ} {s : σ}
    {adapter : V2xNetworkAdapter} {frame : WireFrame} {event : SoaEvent}
    (hok : ((adapter.deserialise frame event).run platform s).value.result = .ok) :
    VerifiedAdvisory ((adapter.deserialise frame event).run platform s).value.event := by
  obtain ⟨pubKeyDigest, -, hevent⟩ := packed_of_ok hok
  rw [hevent]
  exact (published_packAdvisory frame.data pubKeyDigest event).verifiedAdvisory

/-- **What may be redistributed.** An adapter puts exactly the events with the ids of an advisory
into a frame, once it is initialised, and refuses every other with the frame left alone. Whether the
event is a verified one is up to its publisher: the events that the adapter itself publishes are, in
every run that succeeds, and those it puts into a frame again. -/
theorem serialise_ok_iff (adapter : V2xNetworkAdapter) (event : SoaEvent) (prior : WireFrame) :
    ((adapter.serialise event prior).1 = .ok ↔
        adapter.initialised = true ∧ HasAdvisoryIds event) ∧
      ((adapter.serialise event prior).1 ≠ .ok → (adapter.serialise event prior).2 = prior) ∧
      ∀ {σ : Type} (platform : Platform σ) (s : σ) (adapter' : V2xNetworkAdapter)
        (frame : WireFrame) (event' : SoaEvent),
        let ran := (adapter'.deserialise frame event').run platform s
        ran.value.result = .ok → VerifiedAdvisory ran.value.event ∧
          (adapter.initialised = true → (adapter.serialise ran.value.event prior).1 = .ok) := by
  have hiff : ∀ event, (adapter.serialise event prior).1 = .ok ↔
      adapter.initialised = true ∧ HasAdvisoryIds event := by
    intro event
    rcases serialise_cases adapter event prior with ⟨hnot, hres⟩ | ⟨hnot, hres⟩ |
      ⟨hinit, hids, hres⟩
    · simp [hres, hnot]
    · simp [hres, hnot]
    · simp [hres, hinit, hids]
  refine ⟨hiff event, ?_, ?_⟩
  · intro hne
    rcases serialise_cases adapter event prior with ⟨-, hres⟩ | ⟨-, hres⟩ | ⟨hinit, hids, -⟩
    · rw [hres]
    · rw [hres]
    · exact absurd ((hiff event).mpr ⟨hinit, hids⟩) hne
  · intro σ platform s adapter' frame event' ran hok
    have hverified := verifiedAdvisory_of_ok hok
    exact ⟨hverified, fun hinit => (hiff _).mpr ⟨hinit, hverified.ids⟩⟩

/-- `serialise_ok_iff` for what is published of the plain frame. -/
theorem serialise_ok_plainFrame :
    let ran := (initialisedAdapter.deserialise plainFrame {}).run obligingPlatform ⟨⟩
    VerifiedAdvisory ran.value.event ∧
      (initialisedAdapter.serialise ran.value.event {}).1 = .ok := by
  have hinit : initialisedAdapter.initialised = true := rfl
  obtain ⟨hverified, hserialise⟩ := (serialise_ok_iff initialisedAdapter {} {}).2.2
    obligingPlatform ⟨⟩ initialisedAdapter plainFrame {} (result_plainFrame {})
  exact ⟨hverified, hserialise hinit⟩

/-- An event with the ids of an advisory whose byte 24, the status, is 25. -/
def unverifiedEvent : SoaEvent where
  serviceId := 0x1900
  eventId := 0x1901
  payloadLen := 25
  payload := (Bytes.zeros 256).store 24 #v[25]

/-- It is put into a frame all the same. -/
theorem serialise_unverified :
    (initialisedAdapter.serialise unverifiedEvent {}).1 = .ok ∧
      ¬ VerifiedAdvisory unverifiedEvent := by
  refine ⟨rfl, ?_⟩
  intro h
  have htrust := h.trust
  unfold unverifiedEvent at htrust
  rw [Bytes.load_store] at htrust
  exact absurd htrust (by decide)

end verified

/-! ### What a receiver reads -/

section receiver

/-- What there is to an advisory event: all of it but the bytes of the payload not in use. -/
structure AdvisoryEvent where
  serviceId : UInt16
  eventId : UInt16
  sessionId : UInt32
  payloadLen : UInt8
  content : List UInt8
  deriving DecidableEq

/-- The advisory in an event. -/
def advisoryEvent (event : SoaEvent) : AdvisoryEvent where
  serviceId := event.serviceId
  eventId := event.eventId
  sessionId := event.sessionId
  payloadLen := event.payloadLen
  content := content event

/-- The advisory in the bytes of a redistributed frame: the session is the time stamp at 12. -/
def readAdvisory (bytes : List UInt8) : AdvisoryEvent where
  serviceId := 0x1900
  eventId := 0x1901
  sessionId := .ofNat (Nat.ofDigits 256 (((bytes.drop 12).take 4).map UInt8.toNat))
  payloadLen := .ofNat bytes.length
  content := bytes

variable {event : SoaEvent}

/-- **A verified advisory is its bytes in use**: the ids, the session and the length follow. -/
theorem readAdvisory_content (h : VerifiedAdvisory event) :
    readAdvisory (content event) = advisoryEvent event := by
  have hlen : event.payloadLen.toNat = 25 := by
    rw [h.payloadLen]
    rfl
  have hstamp : ((content event).drop 12).take 4 = (event.payload.load 12 4).toList := by
    unfold content
    rw [hlen, Bytes.toList_load, List.drop_take, List.take_take]
    rfl
  have hsession : UInt32.ofNat (event.payload.load 12 4).leNat = event.sessionId := by
    rw [← h.sessionId]
    exact UInt32.ofNat_toNat
  have hlength : (content event).length = 25 := by
    unfold content
    rw [hlen, List.length_take, Vector.length_toList]
    rfl
  unfold readAdvisory advisoryEvent
  rw [hstamp, hlength, h.ids.1, h.ids.2, h.payloadLen]
  exact congrArg (AdvisoryEvent.mk 0x1900 0x1901 · 25 (content event)) hsession

/-- **Redistribution is lossless and cannot be laundered back into trust.** An event that a run
published is put into a frame by any initialised adapter, the one that published it among them, and
the bytes in use of that frame give the whole advisory back. A frame that `Serialise` filled,
whatever the event and the frame before were, is refused by any initialised adapter, without a call
and with the event left alone. -/
theorem redistribution :
    (∀ {σ : Type} (platform : Platform σ) (s : σ) (adapter : V2xNetworkAdapter)
      (frame : WireFrame) (event : SoaEvent),
      let ran := (adapter.deserialise frame event).run platform s
      ran.value.result = .ok → ran.value.adapter.initialised = true ∧
        ∀ (adapter' : V2xNetworkAdapter) (prior : WireFrame), adapter'.initialised = true →
          ∃ out, adapter'.serialise ran.value.event prior = (.ok, out) ∧
            readAdvisory out.received = advisoryEvent ran.value.event) ∧
      ∀ (adapter : V2xNetworkAdapter) (event : SoaEvent) (prior out : WireFrame),
        adapter.serialise event prior = (.ok, out) →
          ∀ {σ : Type} (platform : Platform σ) (s : σ) (adapter' : V2xNetworkAdapter)
            (event' : SoaEvent), adapter'.initialised = true →
            let ran := (adapter'.deserialise out event').run platform s
            ran.value.result = .err .kInvalidArgument ∧ ran.calls = [] ∧
              ran.value.event = event' := by
  constructor
  · intro σ platform s adapter frame event ran hok
    obtain ⟨-, hinit, -⟩ := passes_of_ok hok
    refine ⟨hinit, ?_⟩
    intro adapter' prior hinit'
    have hverified := verifiedAdvisory_of_ok hok
    rcases serialise_cases adapter' ran.value.event prior with ⟨hnot, -⟩ | ⟨hnot, -⟩ |
      ⟨-, -, hres⟩
    · exact absurd hinit' hnot
    · exact absurd hverified.ids hnot
    · refine ⟨_, hres, ?_⟩
      rw [received_serialise hres]
      exact readAdvisory_content hverified
  · intro adapter event prior out hserialise σ platform s adapter' event' hinit' ran
    obtain ⟨hcalls, hout⟩ := deserialise_yields_of_not_wellFormed hinit'
      (not_wellFormed_serialise hserialise) (OracleProg.yields_run _ platform s)
    exact ⟨congrArg DeserialiseOutcome.result hout, hcalls,
      congrArg DeserialiseOutcome.event hout⟩

/-- `redistribution` for the plain frame: what is published of it is put over the frame itself, its
content is read, and what is left of the frame does not make it pass. -/
theorem redistribution_plainFrame :
    let ran := (initialisedAdapter.deserialise plainFrame {}).run obligingPlatform ⟨⟩
    ∃ out, readAdvisory out.received = advisoryEvent ran.value.event ∧
      ((initialisedAdapter.deserialise out {}).run obligingPlatform ⟨⟩).value.result =
        .err .kInvalidArgument := by
  have hinit : initialisedAdapter.initialised = true := rfl
  obtain ⟨-, hserialise⟩ := redistribution.1 obligingPlatform ⟨⟩ initialisedAdapter plainFrame {}
    (result_plainFrame {})
  obtain ⟨out, hout, hread⟩ := hserialise initialisedAdapter plainFrame hinit
  exact ⟨out, hread, (redistribution.2 initialisedAdapter _ plainFrame out hout obligingPlatform ⟨⟩
    initialisedAdapter {} hinit).1⟩

end receiver

end SotifPlausibility.V2x
