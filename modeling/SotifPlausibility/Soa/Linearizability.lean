import SotifPlausibility.Soa.Interleaving

/-!
# The ring is linearizable

In every order in which the two cores take their accesses to the shared memory, and with every
consumer that keeps the protocol of the ring, their calls get the answers of calls made at once.

* `Accounts`, `accounts_run` — what a run of calls made at once reads: the slots that waited and
  those of the events taken, in order.
* `bridgeLinearization` — the cores access by access, against calls made at once.
* `begunEvents_run` — every send is answered once, in order.
* `interleaving_linearizable` — the result.

Source: `IpcBridge.hpp`, `IpcBridge.cpp`.
-/

namespace SotifPlausibility.Soa

open SotifPlausibility.Found

/-! ### Runs of the calls at once -/

/-- The event a send took. -/
def Answer.taken : Answer → Option SoaEvent
  | .sent event .ok => some event
  | _ => none

/-- The slot a read gave. -/
def Answer.slot : Answer → Option IpcSlot
  | .popped slot => slot
  | .sent _ _ => none

/-- The events taken, in order. -/
def takenEvents (given : List Answer) : List SoaEvent := given.filterMap Answer.taken

/-- The slots read, in order. -/
def readSlots (given : List Answer) : List IpcSlot := given.filterMap Answer.slot

/-- One answer more. -/
theorem takenEvents_concat (given : List Answer) (answer : Answer) :
    takenEvents (given ++ [answer]) = takenEvents given ++ answer.taken.toList :=
  filterMap_concat Answer.taken given answer

/-- One answer more. -/
theorem readSlots_concat (given : List Answer) (answer : Answer) :
    readSlots (given ++ [answer]) = readSlots given ++ answer.slot.toList :=
  filterMap_concat Answer.slot given answer

/-- The slots of events sent one after the other, the first under `counter`. -/
def stampsFrom (counter : UInt8) (events : List SoaEvent) : List IpcSlot :=
  events.mapIdx fun k event => IpcBridge.stamp (counter + UInt8.ofNat k) event

/-- One event more. -/
theorem stampsFrom_concat (counter : UInt8) (events : List SoaEvent) (event : SoaEvent) :
    stampsFrom counter (events ++ [event]) =
      stampsFrom counter events ++
        [IpcBridge.stamp (counter + UInt8.ofNat events.length) event] := by
  simp [stampsFrom, List.mapIdx_append]

/-- After the answers `given` from the bridge `bridge`, the bridge is `served`: what was read and
what waits is what waited and what was taken. -/
structure Accounts (bridge : IpcBridge) (given : List Answer) (served : IpcBridge) : Prop where
  /-- The bridge is initialised, with a ring whose indices are in range. -/
  ready : served.Ready
  /-- Every event taken has moved the counter by one. -/
  counter : served.seqCounter = bridge.seqCounter + UInt8.ofNat (takenEvents given).length
  /-- No slot is lost, repeated or moved. -/
  slots : readSlots given ++ served.queue =
    bridge.queue ++ stampsFrom bridge.seqCounter (takenEvents given)

section accounts

variable {bridge served : IpcBridge} {given : List Answer}

/-- A send that takes its event. -/
theorem Accounts.taken (h : Accounts bridge given served) {event : SoaEvent}
    (hok : (served.send event).1 = .ok) :
    Accounts bridge (given ++ [.sent event .ok]) (served.send event).2 := by
  obtain ⟨hready, hqueue, hcounter⟩ := IpcBridge.queue_send h.ready (IpcBridge.send_ok_iff.mp hok)
  have htaken : takenEvents (given ++ [.sent event .ok]) = takenEvents given ++ [event] :=
    takenEvents_concat given _
  have hread : readSlots (given ++ [.sent event .ok]) = readSlots given := by
    rw [readSlots_concat]
    exact List.append_nil _
  refine ⟨hready, ?_, ?_⟩
  · rw [hcounter, h.counter, htaken, List.length_append, UInt8.ofNat_add, UInt8.add_assoc]
    rfl
  · rw [htaken, hread, hqueue, stampsFrom_concat, ← h.counter, ← List.append_assoc,
      ← List.append_assoc, h.slots]

/-- A send that refuses its event. -/
theorem Accounts.refused (h : Accounts bridge given served) {event : SoaEvent} {e : ErrorCode}
    (herr : (served.send event).1 = .err e) :
    Accounts bridge (given ++ [.sent event (.err e)]) (served.send event).2 := by
  have hself : (served.send event).2 = served :=
    IpcBridge.send_eq_self (by rw [herr]; simp)
  have htaken : takenEvents (given ++ [.sent event (.err e)]) = takenEvents given := by
    rw [takenEvents_concat]
    exact List.append_nil _
  have hread : readSlots (given ++ [.sent event (.err e)]) = readSlots given := by
    rw [readSlots_concat]
    exact List.append_nil _
  rw [hself]
  refine ⟨h.ready, ?_, ?_⟩
  · rw [htaken]
    exact h.counter
  · rw [htaken, hread]
    exact h.slots

/-- A read. -/
theorem Accounts.popped (h : Accounts bridge given served) :
    Accounts bridge (given ++ [.popped served.pop.1]) served.pop.2 := by
  obtain ⟨hready, hqueue, hcounter⟩ := IpcBridge.queue_pop h.ready
  have htaken : takenEvents (given ++ [.popped served.pop.1]) = takenEvents given := by
    rw [takenEvents_concat]
    exact List.append_nil _
  have hread : readSlots (given ++ [.popped served.pop.1]) =
      readSlots given ++ served.pop.1.toList := readSlots_concat given _
  refine ⟨hready, ?_, ?_⟩
  · rw [hcounter, htaken]
    exact h.counter
  · rw [htaken, hread, List.append_assoc, ← hqueue]
    exact h.slots

/-- One call keeps the account. -/
theorem Accounts.step (h : Accounts bridge given served) (call : BridgeCall) :
    Accounts bridge (given ++ [(bridgeMachine.step served call).1])
      (bridgeMachine.step served call).2 := by
  cases call with
  | send event =>
      rw [bridgeMachine_send]
      cases hresult : (served.send event).1 with
      | ok => exact h.taken hresult
      | err e => exact h.refused hresult
  | pop => exact h.popped

end accounts

/-- **What a run of calls made at once reads**: what waited before it and the slots of the events it
took, in order. -/
theorem accounts_run {bridge : IpcBridge} (h : bridge.Ready) (calls : List BridgeCall) :
    Accounts bridge ((bridgeMachine.history bridge calls).map (·.output))
      (bridgeMachine.final bridge calls) := by
  refine bridgeMachine.run_induction
    (P := fun history served => Accounts bridge (history.map (·.output)) served) ?_ ?_ calls
  · exact { ready := h, counter := (UInt8.add_zero _).symm, slots := (List.append_nil _).symm }
  · intro history served call hinv
    rw [List.map_append]
    exact hinv.step call

/-! ### Runs of the two cores -/

/-- The event of the call of `Send` that is under way. -/
def SendState.event : SendState → Option SoaEvent
  | .idle => none
  | .headLoaded event _ => some event
  | .filling event _ _ _ => some event

/-- The event a send is about. -/
def Answer.event : Answer → Option SoaEvent
  | .sent event _ => some event
  | .popped _ => none

/-- The event of the send that begins at a step. -/
def begun (e : Entry Cores Turn (Option Answer)) : Option SoaEvent :=
  match e.input with
  | .send event =>
      match e.before.producer with
      | .idle => some event
      | _ => none
  | _ => none

/-- The events of the sends begun, in order. -/
def begunEvents (h : List (Entry Cores Turn (Option Answer))) : List SoaEvent := h.filterMap begun

/-- The events of the sends answered, in order. -/
def answeredEvents (given : List Answer) : List SoaEvent := given.filterMap Answer.event

section begun

variable (writes : SlotStores) (consumer : Consumer) (s : Cores)

/-- The send that begins is answered at once or is under way. -/
theorem event_beginSend (event : SoaEvent) :
    s.producer.event.toList ++
        (begun ((coresMachine writes consumer).entry s (.send event))).toList =
      ((s.beginSend event).1.bind Answer.event).toList ++
        (s.beginSend event).2.producer.event.toList := by
  obtain ⟨bridge, producer, seen⟩ := s
  cases producer with
  | idle =>
      simp only [Cores.beginSend]
      cases bridge.ring with
      | none => split_ifs <;> rfl
      | some ring => split_ifs <;> rfl
  | headLoaded => rfl
  | filling => rfl

/-- The send under way is answered or stays under way. -/
theorem event_continueSend :
    s.producer.event.toList =
      ((s.continueSend writes).1.bind Answer.event).toList ++
        (s.continueSend writes).2.producer.event.toList := by
  obtain ⟨bridge, producer, seen⟩ := s
  unfold Cores.continueSend
  cases bridge.ring with
  | none => rfl
  | some ring =>
      cases producer with
      | idle => rfl
      | headLoaded event head =>
          simp only
          split_ifs <;> rfl
      | filling event head nextHead stores => cases stores <;> rfl

/-- The consumer answers no send and begins none. -/
theorem event_consume :
    s.producer.event.toList =
      ((s.consume consumer).1.bind Answer.event).toList ++
        (s.consume consumer).2.producer.event.toList := by
  obtain ⟨bridge, producer, seen⟩ := s
  unfold Cores.consume
  cases bridge.ring with
  | none => rfl
  | some ring =>
      simp only
      cases consumer.store seen ring <;> rfl

/-- A send that was under way or begins is answered or is under way after the step. -/
theorem event_step (turn : Turn) :
    s.producer.event.toList ++ (begun ((coresMachine writes consumer).entry s turn)).toList =
      ((s.step writes consumer turn).1.bind Answer.event).toList ++
        (s.step writes consumer turn).2.producer.event.toList := by
  cases turn with
  | send event => exact event_beginSend writes consumer s event
  | producer =>
      have hbegun : begun ((coresMachine writes consumer).entry s .producer) = none := rfl
      rw [hbegun, Option.toList_none, List.append_nil]
      exact event_continueSend writes s
  | consumer =>
      have hbegun : begun ((coresMachine writes consumer).entry s .consumer) = none := rfl
      rw [hbegun, Option.toList_none, List.append_nil]
      exact event_consume consumer s

/-- **Every send is answered once, in order**, but for the one under way. -/
theorem begunEvents_run (bridge : IpcBridge) (turns : List Turn) :
    let m := coresMachine writes consumer
    begunEvents (m.history (Cores.start bridge) turns) =
      answeredEvents (answers (m.history (Cores.start bridge) turns)) ++
        (m.final (Cores.start bridge) turns).producer.event.toList := by
  intro m
  refine m.run_induction
    (P := fun h s => begunEvents h = answeredEvents (answers h) ++ s.producer.event.toList)
    rfl ?_ turns
  intro h s turn hinv
  have hbegun : begunEvents (h ++ [m.entry s turn]) =
      begunEvents h ++ (begun (m.entry s turn)).toList :=
    filterMap_concat begun h _
  have hanswered : answeredEvents (answers (h ++ [m.entry s turn])) =
      answeredEvents (answers h) ++
        ((s.step writes consumer turn).1.bind Answer.event).toList := by
    unfold answeredEvents
    rw [answers_concat, List.filterMap_append, Machine.entry_output, coresMachine_step]
    cases (s.step writes consumer turn).1 with
    | none => rfl
    | some answer =>
        cases hevent : answer.event <;> simp [hevent]
  rw [hbegun, hanswered, hinv, List.append_assoc, List.append_assoc, event_step]
  rfl

end begun

section linearizable

variable (writes : SlotStores) {consumer : Consumer} {bridge : IpcBridge}

/-- Each call takes effect at the access that answers it. -/
def bridgeLinearization (hconsumer : consumer.KeepsProtocol) :
    Linearization (coresMachine writes consumer) bridgeMachine where
  call := Answer.call
  Rel := Linearized consumer
  silent {served s turn} h hout := by
    have heffect := takesEffect_step writes hconsumer h turn
    rw [coresMachine_step] at hout ⊢
    generalize s.step writes consumer turn = out at heffect hout ⊢
    obtain ⟨answer, s'⟩ := out
    obtain rfl : answer = none := hout
    exact heffect
  answer {served s turn answer} h hout := by
    have heffect := takesEffect_step writes hconsumer h turn
    rw [coresMachine_step] at hout ⊢
    generalize s.step writes consumer turn = out at heffect hout ⊢
    obtain ⟨answer', s'⟩ := out
    obtain rfl : answer' = some answer := hout
    exact heffect

/-- At the start the two machines stand together: the consumer has seen nothing. -/
theorem linearized_start (h : bridge.Ready) :
    Linearized consumer bridge (Cores.start bridge) := by
  obtain ⟨hinit, ring, hring, hwf⟩ := h
  have hwatched : Watched ring [] := by
    rintro accesses ⟨before, look, after, rfl, hseen, -⟩
    exact absurd hseen (by simp)
  exact ⟨ring,
    { initialised := hinit
      ring_eq := hring
      wellFormed := hwf
      producer := rfl
      watched := hwatched
      ran := .start ring.tail }⟩

/-- The queue in memory is the one the answered calls have left. -/
theorem Linearized.queue_eq {served : IpcBridge} {s : Cores}
    (h : Linearized consumer served s) : s.bridge.queue = served.queue := by
  obtain ⟨ring, h⟩ := h
  obtain ⟨slot, hbridge⟩ := h.producer.memory h.ring_eq h.wellFormed
  rw [IpcBridge.queue_of_ring (congrArg IpcBridge.ring hbridge), IpcBridge.queue_of_ring h.ring_eq]
  exact IpcRingBuffer.contents_draft h.wellFormed slot

/-- **The ring is linearizable.** Let the two cores take their accesses to the shared memory in any
order, from any ready bridge on, with any consumer that keeps the protocol of the ring. The answers
their calls get are those of calls made at once, in the order in which they end; the slots that wait
are those these calls leave, and so is the whole memory while no `Send` is under way. What the
consumer has read and what waits are the slots that waited and those of the events taken, complete
and in order, under consecutive counters. -/
theorem interleaving_linearizable (hconsumer : consumer.KeepsProtocol) (h : bridge.Ready)
    (turns : List Turn) :
    let m := coresMachine writes consumer
    let given := answers (m.history (Cores.start bridge) turns)
    let s := m.final (Cores.start bridge) turns
    let served := bridgeMachine.final bridge (given.map Answer.call)
    given = (bridgeMachine.history bridge (given.map Answer.call)).map (·.output) ∧
      begunEvents (m.history (Cores.start bridge) turns) =
        answeredEvents given ++ s.producer.event.toList ∧
      s.bridge.queue = served.queue ∧ (s.producer = .idle → s.bridge = served) ∧
      readSlots given ++ s.bridge.queue =
        bridge.queue ++ stampsFrom bridge.seqCounter (takenEvents given) := by
  intro m given s served
  obtain ⟨hanswers, hrel⟩ := (bridgeLinearization writes hconsumer).run (linearized_start h) turns
  have hgiven : given = (bridgeMachine.history bridge (given.map Answer.call)).map (·.output) :=
    hanswers.symm
  have hlinear : Linearized consumer served s := hrel
  have hslots := (accounts_run h (given.map Answer.call)).slots
  rw [← hgiven] at hslots
  refine ⟨hgiven, begunEvents_run writes consumer bridge turns, hlinear.queue_eq, ?_, ?_⟩
  · intro hidle
    obtain ⟨ring, hat⟩ := hlinear
    have hproducer := hat.producer
    rw [hidle] at hproducer
    exact hproducer
  · rw [hlinear.queue_eq]
    exact hslots

end linearizable

/-- A ring of zeroed memory. -/
def blankMemory : IpcRingBuffer where
  head := 0
  tail := 0
  magic := 0
  pad := 0
  slots := Vector.replicate 32 IpcSlot.zero

/-- The consumer polls while a send is under way, finds the ring empty, and polls again when the
send is through: the answers are those of a send and a read made at once. -/
theorem interleaving_linearizable_overlap :
    let bridge := (IpcBridge.init { ring := some blankMemory }).2
    let m := coresMachine sourceStores pollingConsumer
    let turns := [.consumer, .send {}, .producer, .consumer] ++ List.replicate 142 .producer ++
      List.replicate 136 .consumer
    let given := answers (m.history (Cores.start bridge) turns)
    given.map Answer.call = [.send {}, .pop] ∧
      given = (bridgeMachine.history bridge (given.map Answer.call)).map (·.output) :=
  ⟨rfl, (interleaving_linearizable sourceStores pollingConsumer_keepsProtocol
    (IpcBridge.ready_init rfl).1 _).1⟩

end SotifPlausibility.Soa
