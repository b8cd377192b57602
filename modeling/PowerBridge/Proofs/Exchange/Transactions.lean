import PowerBridge.Proofs.Exchange.Scripted
import PowerBridge.Proofs.Service.Footprint

/-!
# Transactions

A transaction is what is seen of one exchange with the controller: a request is written, the
controller is triggered, some polls find it busy, and an idle one may follow, after which a response
may be read. All of it happens on one channel.

How many polls there are follows from the policy of the platform: none only if nothing is waited for
or no poll is allowed, and never more than are allowed.

Main statements: `isTransaction_sendNonBlocking`, `isTransaction_send` and
`isTransaction_sendForStatus`, one for each way of sending.
-/

namespace PowerBridge

open Eemi (Frame frameWords)
open Link (Channel Scripted)

/-- How a transaction goes on after the busy polls. -/
inductive Closing where
  /-- There is no further poll. -/
  | unacknowledged
  /-- A poll finds the controller idle. -/
  | acknowledged
  /-- A poll finds the controller idle, and then a response is read, with this many words. -/
  | answered (count : Nat) (few : count ≤ 8)

/-- A transaction. -/
structure Transaction where
  channel : Channel
  words : Vector UInt32 frameWords
  busyPolls : Nat
  closing : Closing

/-- The operations of the transport that make up exchanges. -/
def LinkEvent.ofExchange : LinkEvent → Bool
  | .requestWritten _ | .triggered | .polled _ | .responseRead _ => true
  | _ => false

/-- An operation that is part of an exchange, and its channel. -/
def Event.exchange? : Event → Option (Channel × LinkEvent)
  | .link channel event => if event.ofExchange then some (channel, event) else none
  | _ => none

/-- The parts of exchanges that are seen. -/
def exchanged (events : List Event) : List (Channel × LinkEvent) :=
  events.filterMap Event.exchange?

theorem exchanged_append (earlier later : List Event) :
    exchanged (earlier ++ later) = exchanged earlier ++ exchanged later := by
  rw [exchanged, List.filterMap_append]
  rfl

namespace Closing

def operations : Closing → List LinkEvent
  | unacknowledged => []
  | acknowledged => [.polled false]
  | answered count _ => [.polled false, .responseRead count]

/-- How many polls are left once the controller is not busy any more. -/
def polls : Closing → Nat
  | unacknowledged => 0
  | acknowledged | answered .. => 1

/-- How many responses are read. -/
def reads : Closing → Nat
  | unacknowledged | acknowledged => 0
  | answered .. => 1

end Closing

namespace Transaction

/-- The operations that make up a transaction, in order. -/
def operations (t : Transaction) : List LinkEvent :=
  .requestWritten t.words :: .triggered ::
    (List.replicate t.busyPolls (.polled true) ++ t.closing.operations)

/-- A transaction as it is seen, all of it on its channel. -/
def events (t : Transaction) : List (Channel × LinkEvent) :=
  t.operations.map fun operation => (t.channel, operation)

def polls (t : Transaction) : Nat :=
  t.busyPolls + t.closing.polls

/-- How many responses are read in some transactions. -/
def reads : List Transaction → Nat
  | [] => 0
  | t :: rest => t.closing.reads + reads rest

theorem reads_append (earlier later : List Transaction) :
    reads (earlier ++ later) = reads earlier + reads later := by
  induction earlier with
  | nil => exact (Nat.zero_add _).symm
  | cons t rest ih => rw [List.cons_append, reads, reads, ih, Nat.add_assoc]

/-- A transaction that a policy allows when a frame is exchanged on a channel. -/
structure Carries (wait : WaitPolicy) (awaited : Awaited) (channel : Channel) (frame : Frame)
    (t : Transaction) : Prop where
  onChannel : t.channel = channel
  writes : t.words = frame.words
  unpolled : t.polls = 0 → awaited = .nothing ∨ wait = .bounded 0
  bounded : ∀ p, wait = .bounded p → t.polls ≤ p.toNat

end Transaction

namespace Exchange

/-! ## Waits -/

/-- What is seen of a wait on a channel. -/
theorem exchanged_pollEvents (channel : Channel) (answers : List Bool) :
    exchanged (pollEvents channel answers) = answers.map fun busy => (channel, .polled busy) := by
  induction answers with
  | nil => rfl
  | cons busy rest ih => exact congrArg _ ih

/-- How a wait closes a transaction, what comes after it being left open. -/
theorem exchanged_waited (channel : Channel) (frame : Frame) (env : Env) (m : Machine Scripted) :
    exchanged (postEvents channel frame ++ waitEvents channel env m) =
      if InTime env m then
        Transaction.events ⟨channel, frame.words, m.transport.busyPolls, .acknowledged⟩
      else
        Transaction.events ⟨channel, frame.words,
          env.platform.wait.allowedPolls m.transport.busyPolls, .unacknowledged⟩ := by
  rw [exchanged_append, waitEvents, exchanged_pollEvents]
  -- the busy polls are closed by an idle one, or the policy has run out of polls
  by_cases inTime : InTime env m
  · rw [if_pos inTime, pollAnswers_of_lt inTime]
    simp [exchanged, postEvents, Event.exchange?, LinkEvent.ofExchange, Transaction.events,
      Transaction.operations, Closing.operations]
  · rw [if_neg inTime, pollAnswers_of_le (Nat.not_lt.1 inTime)]
    simp [exchanged, postEvents, Event.exchange?, LinkEvent.ofExchange, Transaction.events,
      Transaction.operations, Closing.operations]

/-- In time, a policy has allowed all the busy polls and the idle one. -/
theorem polls_of_inTime {env : Env} {m : Machine Scripted} (inTime : InTime env m) (p : UInt32)
    (policy : env.platform.wait = .bounded p) : m.transport.busyPolls + 1 ≤ p.toNat := by
  rw [InTime, policy] at inTime
  exact inTime

/-- A wait that is not in time is one with a bound, and has used it up. -/
theorem policy_of_late {env : Env} {m : Machine Scripted} (late : ¬ InTime env m) :
    ∃ p, env.platform.wait = .bounded p ∧
      env.platform.wait.allowedPolls m.transport.busyPolls = p.toNat := by
  cases policy : env.platform.wait with
  -- a script is busy for finitely many polls
  | forever =>
    rw [InTime, policy] at late
    exact absurd (Nat.lt_succ_self _) late
  | bounded p => exact ⟨p, rfl, rfl⟩

/-! ## Ways of sending -/

/-- What an exchange leaves to be seen, and of the script: one transaction, and the responses
without those that it reads. -/
def IsTransaction (awaited : Awaited) (channel : Channel) (frame : Frame) (env : Env)
    (m : Machine Scripted) {α : Type} (o : Outcome Scripted α) : Prop :=
  ∃ t : Transaction, t.Carries env.platform.wait awaited channel frame ∧
    exchanged o.events = t.events ∧
      o.machine.transport.responses = m.transport.responses.drop t.closing.reads

variable (channel : Channel) (frame : Frame) (env : Env) (m : Machine Scripted)

theorem isTransaction_sendNonBlocking :
    IsTransaction .nothing channel frame env m (sendNonBlocking channel frame env m) := by
  rw [sendNonBlocking_apply]
  exact ⟨⟨channel, frame.words, 0, .unacknowledged⟩,
    ⟨rfl, rfl, fun _ => .inl rfl, fun _ _ => Nat.zero_le _⟩, rfl, rfl⟩

theorem carries_of_inTime {env : Env} {m : Machine Scripted} (awaited : Awaited)
    (inTime : InTime env m) {closing : Closing} (idle : closing.polls = 1) :
    Transaction.Carries env.platform.wait awaited channel frame
      ⟨channel, frame.words, m.transport.busyPolls, closing⟩ where
  onChannel := rfl
  writes := rfl
  unpolled none := by
    rw [Transaction.polls, idle] at none
    cases none
  bounded p policy := by
    rw [Transaction.polls, idle]
    exact polls_of_inTime inTime p policy

theorem carries_of_late {env : Env} {m : Machine Scripted} (awaited : Awaited)
    (late : ¬ InTime env m) :
    Transaction.Carries env.platform.wait awaited channel frame
      ⟨channel, frame.words, env.platform.wait.allowedPolls m.transport.busyPolls,
        .unacknowledged⟩ := by
  obtain ⟨p, policy, allowed⟩ := policy_of_late late
  refine ⟨rfl, rfl, ?unpolled, ?bounded⟩
  case unpolled =>
    intro none
    have zero : p.toNat = 0 := allowed ▸ none
    right
    rw [policy, UInt32.toNat_inj.1 (zero.trans UInt32.toNat_zero.symm)]
  case bounded =>
    intro q policy'
    rw [policy] at policy'
    cases policy'
    exact Nat.le_of_eq allowed

theorem isTransaction_send :
    IsTransaction .acknowledgement channel frame env m (send channel frame env m) := by
  have seen := exchanged_waited channel frame env m
  rw [send_apply]
  by_cases inTime : InTime env m
  · rw [if_pos inTime] at seen
    exact ⟨_, carries_of_inTime channel frame .acknowledgement inTime rfl, seen, rfl⟩
  · rw [if_neg inTime] at seen
    exact ⟨_, carries_of_late channel frame .acknowledgement inTime, seen, rfl⟩

theorem isTransaction_sendForStatus {n : Nat} (few : n ≤ 8) (values : Vector UInt32 n) :
    IsTransaction (.response n) channel frame env m (sendForStatus channel frame values env m) := by
  have seen := exchanged_waited channel frame env m
  rw [sendForStatus_apply]
  by_cases inTime : InTime env m
  · rw [if_pos inTime] at seen ⊢
    refine ⟨⟨channel, frame.words, m.transport.busyPolls, .answered n few⟩,
      carries_of_inTime channel frame _ inTime rfl, ?_, List.drop_one.symm⟩
    -- the response is read after the idle poll, which is the last one
    rw [exchanged_append, seen]
    simp [exchanged, Event.exchange?, LinkEvent.ofExchange, Transaction.events,
      Transaction.operations, Closing.operations]
  · rw [if_neg inTime] at seen ⊢
    exact ⟨_, carries_of_late channel frame _ inTime, seen, rfl⟩

end Exchange

end PowerBridge
