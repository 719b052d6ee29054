import SotifPlausibility.Sotif.SharedChannel

/-!
# The numbers of the commands on the shared channel

Each sender numbers its commands with a counter of its own, the gate from 0 and the arbitrator
from 1, and counts a command whether or not the bridge takes it.

* `attempts`, `attemptsBy` — how many commands a history tried to send.
* `NumberInv` — the counters are the attempts, and the commands on the channel have numbers below
  their sender's next one.
* `SwitchesAhead` — at each change of sender, the new sender's counter is ahead of the last command.
* `numbers_increase_iff` — the numbers on the channel increase exactly while that is so.

Source: `SafetyArbitrator.hpp`, `SafeStateCommand::sequenceNum`; `SotifPlausibilityGate.cpp`,
`EscalateToSafeState`.
-/

namespace SotifPlausibility.Sotif

open SotifPlausibility.Found SotifPlausibility.Soa

/-! ### Attempts -/

/-- The step tried to send a command. -/
def attempted (e : ChannelEntry) : Bool := e.output.sent.isSome

/-- How many commands a history tried to send. -/
def attempts (h : List ChannelEntry) : ℕ := h.countP attempted

/-- How many of them a sender tried to send. -/
def attemptsBy (sender : Sender) (h : List ChannelEntry) : ℕ :=
  h.countP fun e => attempted e && e.input.sender = sender

/-- The number a sender starts from. -/
def Sender.base : Sender → ℕ
  | .gate => 0
  | .arbitrator => 1

section attempts

variable {h : List ChannelEntry} {e : ChannelEntry}

/-- No sender attempts more than all together. -/
theorem attemptsBy_le (sender : Sender) (h : List ChannelEntry) :
    attemptsBy sender h ≤ attempts h :=
  List.countP_mono_left fun e _ he => by
    simp only [Bool.and_eq_true] at he
    exact he.1

/-- A step more has no fewer attempts. -/
theorem attempts_le_concat (h : List ChannelEntry) (e : ChannelEntry) :
    attempts h ≤ attempts (h ++ [e]) := by
  unfold attempts
  rw [List.countP_append]
  exact Nat.le_add_right _ _

/-- A step that passes a command to the bridge is an attempt. -/
theorem attempts_concat_of_sent (he : e.output.sent.isSome = true) :
    attempts (h ++ [e]) = attempts h + 1 := by
  unfold attempts
  simp [attempted, he]

/-- A step that passes nothing to the bridge is none. -/
theorem attemptsBy_concat_of_none (sender : Sender) (he : e.output.sent = none) :
    attemptsBy sender (h ++ [e]) = attemptsBy sender h := by
  unfold attemptsBy
  simp [attempted, he]

/-- A step that does is an attempt of its sender. -/
theorem attemptsBy_concat_of_sent (sender : Sender) (he : e.output.sent.isSome = true) :
    attemptsBy sender (h ++ [e]) =
      attemptsBy sender h + if e.input.sender = sender then 1 else 0 := by
  unfold attemptsBy
  rw [List.countP_append]
  by_cases hs : e.input.sender = sender <;> simp [attempted, he, hs]

end attempts

/-! ### The counters -/

/-- The counters of the senders agree with the history, and no command on the channel has the number
of a later one of its sender. -/
structure NumberInv (h : List ChannelEntry) (s : ChannelSystem) : Prop where
  bound : Bound s
  counter : ∀ sender, nextNumber s sender = UInt32.ofNat (attemptsBy sender h + sender.base)
  below : ∀ p ∈ channelCommands h,
    ∃ n < attemptsBy p.1 h + p.1.base, p.2.sequenceNum = UInt32.ofNat n

section counters

variable {h : List ChannelEntry} {s : ChannelSystem}

/-- At the start no command was sent. -/
theorem numberInv_start (bridge : IpcBridge) (config : SotifPlausibilityConfig)
    (mandatoryDomains : UInt8) (nowMs : UInt64) :
    NumberInv [] (ChannelSystem.start bridge config mandatoryDomains nowMs) where
  bound := bound_start bridge config mandatoryDomains nowMs
  counter := by
    intro sender
    cases sender with
    | gate =>
        simp only [nextNumber, ChannelSystem.start, SotifPlausibilityGate.init]
        split_ifs <;> rfl
    | arbitrator => rfl
  below := by
    intro p hp
    exact absurd hp List.not_mem_nil

/-- One step keeps the agreement. -/
theorem numberInv_step (inv : NumberInv h s) (i : ChannelInput) :
    NumberInv (h ++ [channelMachine.entry s i]) (channelStep s i).2 := by
  obtain ⟨hbound, heffect⟩ := channelStep_effects inv.bound i
  rcases heffect with ⟨hsent, hgate, harb⟩ | ⟨cmd, sid, result, hof, hres, hsent, hgate, harb⟩
  · -- no send: neither the counters nor the channel move
    have hnone := channelCommand_of_none (e := channelMachine.entry s i) hsent
    have hcount (sender : Sender) :=
      attemptsBy_concat_of_none (h := h) (e := channelMachine.entry s i) sender hsent
    refine ⟨hbound, ?_, ?_⟩
    · intro sender
      rw [hcount, ← inv.counter]
      cases sender with
      | gate => exact hgate
      | arbitrator => simp only [nextNumber, harb]
    · intro p hp
      rw [channelCommands_concat, hnone] at hp
      rw [hcount]
      exact inv.below p (by simpa using hp)
  · have hsome : (channelMachine.entry s i).output.sent.isSome = true := by
      rw [Machine.entry_output, channelMachine_step, hsent]
      rfl
    have hcount (sender : Sender) := attemptsBy_concat_of_sent (h := h) sender hsome
    have hnext (sender : Sender) : nextNumber (channelStep s i).2 sender =
        nextNumber s sender + if i.sender = sender then 1 else 0 := by
      cases sender with
      | gate => exact hgate
      | arbitrator =>
          simp only [nextNumber, harb]
          rw [UInt32.add_assoc, UInt32.add_assoc, UInt32.add_comm 1]
    refine ⟨hbound, ?_, ?_⟩
    · intro sender
      rw [hnext, inv.counter, hcount, Machine.entry_input]
      split_ifs
      · rw [Nat.add_right_comm _ 1, UInt32.ofNat_add _ 1]
        rfl
      · simp
    · intro p hp
      rw [channelCommands_concat] at hp
      rcases List.mem_append.mp hp with hp | hp
      · obtain ⟨n, hn, hp⟩ := inv.below p hp
        exact ⟨n, by rw [hcount]; omega, hp⟩
      · obtain ⟨hsender, hof⟩ := channelCommand_isCommandOf inv.bound (Option.mem_toList.mp hp)
        refine ⟨attemptsBy p.1 h + p.1.base, ?_, by rw [hof.sequenceNum, inv.counter]⟩
        rw [hcount, Machine.entry_input, if_pos hsender.symm]
        omega

end counters

/-! ### When the numbers increase -/

/-- The command of a step comes after one of its own sender, or its sender's counter is ahead of the
number of that one. -/
def SwitchAhead (pre : List ChannelEntry) (e : ChannelEntry) : Prop :=
  ∀ sender cmd, channelCommand e = some (sender, cmd) →
    ∀ p ∈ lastCommand pre, p.1 ≠ sender → p.2.sequenceNum < nextNumber e.before sender

/-- At each change of sender the new sender's counter is ahead. -/
def SwitchesAhead : List ChannelEntry → Prop := AtEach SwitchAhead

/-- The numbers of the commands on the channel, oldest first. -/
def channelNumbers (h : List ChannelEntry) : List UInt32 :=
  (channelCommands h).map (·.2.sequenceNum)

section increase

variable {h : List ChannelEntry} {s : ChannelSystem}

instance transUInt32Lt : @Trans UInt32 UInt32 UInt32 (· < ·) (· < ·) (· < ·) := ⟨UInt32.lt_trans⟩

/-- With fewer than `2 ^ 32` attempts, a command follows one of its own sender with a larger
number. -/
theorem number_lt_nextNumber (inv : NumberInv h s) (hcount : attempts h + 1 < 2 ^ 32)
    {p : Sender × SafeStateCommand} (hp : p ∈ lastCommand h) :
    p.2.sequenceNum < nextNumber s p.1 := by
  obtain ⟨n, hn, hnumber⟩ := inv.below p (List.mem_of_getLast? hp)
  have hbase : p.1.base ≤ 1 := by
    cases p.1 with
    | gate => exact Nat.zero_le 1
    | arbitrator => exact le_rfl
  have hfits : attemptsBy p.1 h + p.1.base < UInt32.size :=
    lt_of_le_of_lt (Nat.add_le_add (attemptsBy_le p.1 h) hbase) hcount
  rw [hnumber, inv.counter, UInt32.lt_iff_toNat_lt, UInt32.toNat_ofNat_of_lt' (hn.trans hfits),
    UInt32.toNat_ofNat_of_lt' hfits]
  exact hn

/-- One step keeps the equivalence. -/
theorem numbers_step (inv : NumberInv h s) (i : ChannelInput)
    (hcount : attempts (h ++ [channelMachine.entry s i]) < 2 ^ 32)
    (ih : (channelNumbers h).Pairwise (· < ·) ↔ SwitchesAhead h) :
    (channelNumbers (h ++ [channelMachine.entry s i])).Pairwise (· < ·) ↔
      SwitchesAhead (h ++ [channelMachine.entry s i]) := by
  unfold SwitchesAhead at ih ⊢
  rw [atEach_concat, ← ih]
  unfold channelNumbers
  rw [channelCommands_concat, List.map_append]
  cases hcmd : channelCommand (channelMachine.entry s i) with
  | none => simp [SwitchAhead, hcmd]
  | some q =>
      obtain ⟨sender, cmd⟩ := q
      obtain ⟨-, hof⟩ := channelCommand_isCommandOf inv.bound hcmd
      have hsome : (channelMachine.entry s i).output.sent.isSome = true := by
        by_contra hnone
        rw [channelCommand_of_none (Option.not_isSome_iff_eq_none.mp hnone)] at hcmd
        exact absurd hcmd (by simp)
      rw [attempts_concat_of_sent hsome] at hcount
      have hstep : (∀ n ∈ ((channelCommands h).map (·.2.sequenceNum)).getLast?,
          n < cmd.sequenceNum) ↔ SwitchAhead h (channelMachine.entry s i) := by
        rw [hof.sequenceNum]
        unfold SwitchAhead
        rw [hcmd, List.getLast?_map]
        constructor
        · rintro hlast _ _ heq p hp -
          obtain ⟨rfl, rfl⟩ := Prod.mk.inj (Option.some.inj heq)
          exact hlast _ (Option.mem_map_of_mem _ hp)
        · intro hswitch n hn
          obtain ⟨p, hp, rfl⟩ := Option.mem_map.mp hn
          by_cases hsame : p.1 = sender
          · rw [← hsame]
            exact number_lt_nextNumber inv hcount hp
          · exact hswitch sender cmd rfl p hp hsame
      rw [← hstep]
      exact pairwise_concat_iff _ _

/-- **When the command numbers increase.** In every run of the two senders that tries to send fewer
than `2 ^ 32` commands, whatever sends the bridge refuses, the numbers on the channel strictly
increase exactly when, at each change of sender, the new sender's own counter is ahead of the last
command's number. -/
theorem numbers_increase_iff (bridge : IpcBridge) (config : SotifPlausibilityConfig)
    (mandatoryDomains : UInt8) (nowMs : UInt64) (is : List ChannelInput) :
    let h := channelMachine.history (ChannelSystem.start bridge config mandatoryDomains nowMs) is
    attempts h < 2 ^ 32 → ((channelNumbers h).Pairwise (· < ·) ↔ SwitchesAhead h) := by
  intro h
  have hrun : NumberInv h (channelMachine.final
      (ChannelSystem.start bridge config mandatoryDomains nowMs) is) ∧
        (attempts h < 2 ^ 32 → ((channelNumbers h).Pairwise (· < ·) ↔ SwitchesAhead h)) := by
    apply channelMachine.run_induction
      (P := fun h s => NumberInv h s ∧
        (attempts h < 2 ^ 32 → ((channelNumbers h).Pairwise (· < ·) ↔ SwitchesAhead h)))
    · refine ⟨numberInv_start bridge config mandatoryDomains nowMs, ?_⟩
      intro _
      exact ⟨fun _ => atEach_nil, fun _ => List.Pairwise.nil⟩
    · rintro h s i ⟨inv, ih⟩
      refine ⟨numberInv_step inv i, ?_⟩
      intro hcount
      apply numbers_step inv i hcount
      exact ih (lt_of_le_of_lt (attempts_le_concat _ _) hcount)
  exact hrun.2

/-- `numbers_increase_iff` for a rejection before the arbitrator's first command. -/
theorem numbers_increase_rejection_first :
    let h := channelMachine.history plainStart [staleEvaluation, lidarFails, firstCycle]
    (channelNumbers h).Pairwise (· < ·) ↔ SwitchesAhead h :=
  numbers_increase_iff (freshBridge staleMemory) {} 0 0 [staleEvaluation, lidarFails, firstCycle]
    (by decide +kernel)

example : channelNumbers (channelMachine.history plainStart
    [staleEvaluation, lidarFails, firstCycle]) = [0, 1] := by
  decide +kernel

/-- The arbitrator's first command is number 1 and the rejection after it number 0. -/
theorem numbers_decrease :
    let h := channelMachine.history plainStart [lidarFails, firstCycle, staleEvaluation]
    attempts h < 2 ^ 32 ∧ channelNumbers h = [1, 0] ∧ ¬ (channelNumbers h).Pairwise (· < ·) := by
  decide +kernel

end increase

end SotifPlausibility.Sotif
