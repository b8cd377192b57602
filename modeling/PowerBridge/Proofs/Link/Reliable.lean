import PowerBridge.Link.Scripted
import PowerBridge.Machine.Platform
import PowerBridge.Proofs.Link.Mailbox

/-!
# Transports that can be relied on

An exchange halts only if the transport faults, or if a wait without a bound never ends. A transport
can be relied on, on some channels and as long as an invariant holds, if neither happens: operations
on these channels end without a fault, and keep the invariant; and if waits have no bound, a poll
that finds the controller busy brings the transport nearer to where it settles.

A script can be relied on always. A mailbox can be, if no sum of its offsets leaves the address
range, and either waits have a bound or the controller is not busy.

A channel of a mailbox that has just been opened is one of these.

Main statements: `reliable_scripted`, `Mailbox.reliable`, `Mailbox.serves_of_openChannel`.
-/

namespace PowerBridge.Link

open Eemi (Callback frameWords)

/-- On some channels operations do not fault while an invariant holds, and keep it; and waits by a
policy end. -/
structure Reliable {T : Type} [Transport T] (wait : WaitPolicy) (used : Channel → Prop)
    (I : T → Prop) : Prop where
  writeRequest : ∀ {channel}, used channel → ∀ words t, I t →
    ∃ t', Transport.writeRequest channel words t = .ok t' ∧ I t'
  trigger : ∀ {channel}, used channel → ∀ t, I t →
    ∃ t', Transport.trigger channel t = .ok t' ∧ I t'
  isBusy : ∀ {channel}, used channel → ∀ t, I t →
    ∃ busy t', Transport.isBusy channel t = .ok (busy, t') ∧ I t' ∧
      (wait = .forever → busy = true → Transport.settled t' < Transport.settled t)
  readResponse : ∀ {channel}, used channel → ∀ {n} (values : Vector UInt32 n) t, I t →
    ∃ response t', Transport.readResponse channel values t = .ok (response, t') ∧ I t'
  readCallback : ∀ {channel}, used channel → ∀ values t, I t →
    ∃ callback, Transport.readCallback channel values t = .ok callback
  isPending : ∀ {channel}, used channel → ∀ t, I t →
    ∃ pending, Transport.isPending channel t = .ok pending
  clearPending : ∀ {channel}, used channel → ∀ t, I t →
    ∃ t', Transport.clearPending channel t = .ok t' ∧ I t'

/-- A script can be relied on: every poll that is answered as busy is one less of those. -/
theorem reliable_scripted (wait : WaitPolicy) (used : Channel → Prop) :
    Reliable (T := Scripted) wait used fun _ => True where
  writeRequest _ _ t _ := ⟨t, rfl, trivial⟩
  trigger _ t _ := ⟨t, rfl, trivial⟩
  isBusy _ t _ := by
    refine ⟨t.poll.1, t.poll.2, rfl, trivial, fun _ busy => ?_⟩
    change t.poll.2.busyPolls < t.busyPolls
    unfold Scripted.poll at busy ⊢
    by_cases idle : t.busyPolls = 0
    · rw [if_pos idle] at busy
      cases busy
    · rw [if_neg idle]
      exact Nat.sub_one_lt idle
  readResponse _ _ _ t _ := ⟨_, t.takeResponse.2, rfl, trivial⟩
  readCallback _ _ t _ := ⟨_, rfl⟩
  isPending _ t _ := ⟨_, rfl⟩
  clearPending _ t _ := ⟨_, rfl, trivial⟩

/-! ## Mailboxes -/

/-- An agent without the registers that operations write. -/
def Agent.still (a : Agent) : Agent :=
  { a with registers := { observation := a.registers.observation } }

namespace Mailbox

/-- The agents of a channel, as far as they exist: their offsets add up without leaving the address
range, and the local one may wait for the remote one, without a bound only if it is not busy. -/
structure Serves (wait : WaitPolicy) (channel : Channel) (m : Mailbox) : Prop where
  inRange : m.InRange channel
  idle : ∀ {here there}, wait = .forever → m.agents[channel.localId]? = some here →
    m.agents[channel.remoteId]? = some there →
      here.registers.observation &&& there.bit = 0

theorem still_setRegister {name : RegisterName} (written : name ≠ .observation) (agent : Nat)
    (value : UInt32) (m : Mailbox) :
    (m.setRegister agent name value).agents.map Agent.still = m.agents.map Agent.still := by
  unfold setRegister
  refine List.ext_getElem? fun i => ?_
  rw [List.getElem?_map, List.getElem?_map, List.getElem?_modify]
  cases m.agents[i]? with
  | none => rfl
  | some a =>
    by_cases same : agent = i
    · -- each register but that one is left out
      cases name <;> first | exact absurd rfl written | simp [same, Agent.still, Registers.set]
    · simp [same]

theorem still_of_writeBit {name : RegisterName} (other : name ≠ .observation) {channel : Channel}
    {m m' : Mailbox} (wrote : m.writeBit name channel = .ok m') :
    m'.agents.map Agent.still = m.agents.map Agent.still := by
  rcases withRoute_eq_ok wrote with rfl | ⟨r, -, rfl⟩
  · rfl
  · exact still_setRegister other _ _ m

/-- The agents are those of before, but for registers that operations write. -/
theorem exists_agent_of_still {m m' : Mailbox}
    (same : m'.agents.map Agent.still = m.agents.map Agent.still) {i : Nat} {a' : Agent}
    (found : m'.agents[i]? = some a') :
    ∃ a, m.agents[i]? = some a ∧ a.bit = a'.bit ∧ a.bufferOffset = a'.bufferOffset ∧
      a.targetOffset = a'.targetOffset ∧
        a.registers.observation = a'.registers.observation := by
  have stills := congrArg (fun agents => agents[i]?) same
  simp only [List.getElem?_map, found, Option.map_some] at stills
  obtain ⟨a, found, still⟩ := Option.map_eq_some_iff.1 stills.symm
  obtain ⟨bit, buffer, target, registers⟩ := Agent.mk.inj still
  exact ⟨a, found, bit, buffer, target, (Registers.mk.inj registers).2.1⟩

namespace Serves

variable {wait : WaitPolicy} {channel : Channel} {m m' : Mailbox}

theorem of_still (same : m'.agents.map Agent.still = m.agents.map Agent.still)
    (h : Serves wait channel m) : Serves wait channel m' := by
  constructor
  case inRange =>
    intro here there foundHere foundThere
    obtain ⟨here', foundHere, -, buffer, target, -⟩ := exists_agent_of_still same foundHere
    obtain ⟨there', foundThere, -, buffer', target', -⟩ := exists_agent_of_still same foundThere
    rw [← buffer, ← target, ← buffer', ← target']
    exact h.inRange foundHere foundThere
  case idle =>
    intro here there forever foundHere foundThere
    obtain ⟨here', foundHere, -, -, -, observed⟩ := exists_agent_of_still same foundHere
    obtain ⟨there', foundThere, bit, -⟩ := exists_agent_of_still same foundThere
    rw [← observed, ← bit]
    exact h.idle forever foundHere foundThere

theorem exists_route (h : Serves wait channel m) : ∃ found, m.route channel = .ok found := by
  unfold route
  cases here : m.agents[channel.localId]? with
  | none => exact ⟨_, rfl⟩
  | some a =>
    cases there : m.agents[channel.remoteId]? with
    | none => exact ⟨_, rfl⟩
    | some b =>
      obtain ⟨request, callback⟩ := h.inRange here there
      dsimp only
      rw [addressSum_eq_ok_iff.2 ⟨request, rfl⟩, addressSum_eq_ok_iff.2 ⟨callback, rfl⟩]
      exact ⟨_, rfl⟩

/-- Nothing faults on the route of such a channel. -/
theorem withRoute {α : Type} (h : Serves wait channel m) (other : α) (action : Route → α) :
    ∃ a, m.withRoute channel other action = .ok a := by
  obtain ⟨found, routed⟩ := h.exists_route
  unfold Mailbox.withRoute
  rw [routed]
  cases found with
  | error missing => exact ⟨_, rfl⟩
  | ok r => exact ⟨_, rfl⟩

/-- If waits have no bound, no poll finds the controller busy. -/
theorem not_busy (h : Serves wait channel m) (forever : wait = .forever) {busy : Bool}
    (polled : m.testBit Registers.observation channel = .ok busy) : busy = false := by
  rcases withRoute_eq_ok polled with rfl | ⟨r, routed, rfl⟩
  · rfl
  · obtain ⟨⟨here, there⟩, -⟩ := route_eq_ok_iff.1 routed
    have clear := h.idle forever here there
    simp only [clear, ne_eq, not_true_eq_false, decide_false]

end Serves

/-- A register that is not polled may be written, and channels are served as before. -/
theorem exists_writeBit {wait : WaitPolicy} {used : Channel → Prop} {name : RegisterName}
    (other : name ≠ .observation) {channel : Channel} (uses : used channel) (m : Mailbox)
    (inv : ∀ channel, used channel → Serves wait channel m) :
    ∃ m', m.writeBit name channel = .ok m' ∧ ∀ channel, used channel → Serves wait channel m' := by
  obtain ⟨m', wrote⟩ := (inv channel uses).withRoute m
    fun r => m.setRegister channel.localId name r.there.bit
  have still := still_of_writeBit other wrote
  exact ⟨m', wrote, fun channel uses => (inv channel uses).of_still still⟩

/-- A mailbox can be relied on where its channels are served. -/
theorem reliable (wait : WaitPolicy) (used : Channel → Prop) :
    Reliable wait used fun m : Mailbox => ∀ channel, used channel → Serves wait channel m := by
  constructor
  case trigger => exact exists_writeBit (by simp)
  case clearPending => exact exists_writeBit (by simp)
  case writeRequest =>
    intro channel uses words m inv
    obtain ⟨m', wrote⟩ := (inv channel uses).withRoute m fun r =>
      if fits m.memory r.request frameWords then m.setWords r.request words.toList else m
    have agents := agents_of_writeRequest wrote
    exact ⟨m', wrote, fun channel uses => (inv channel uses).of_still (by rw [agents])⟩
  case isBusy =>
    intro channel uses m inv
    obtain ⟨busy, polled⟩ : ∃ busy, m.testBit Registers.observation channel = .ok busy :=
      (inv channel uses).withRoute _ _
    refine ⟨busy, m, congrArg (Except.map fun busy => (busy, m)) polled, inv, ?_⟩
    intro forever isBusy
    rw [(inv channel uses).not_busy forever polled] at isBusy
    cases isBusy
  case readResponse =>
    intro channel uses n values m inv
    obtain ⟨response, read⟩ : ∃ response, m.readResponse channel values = .ok response :=
      (inv channel uses).withRoute _ _
    exact ⟨response, m, congrArg (Except.map fun response => (response, m)) read, inv⟩
  case readCallback => exact fun uses values m inv => (inv _ uses).withRoute _ _
  case isPending => exact fun uses m inv => (inv _ uses).withRoute _ _

/-! ## Channels that have been opened -/

theorem still_of_openChannel {channel : Channel} {m m' : Mailbox} {result : Except OpenError Unit}
    (opened : m.openChannel channel = .ok (result, m')) :
    m'.agents.map Agent.still = m.agents.map Agent.still := by
  unfold openChannel at opened
  rcases found : m.route channel with why | missing | r
  · rw [found] at opened
    cases opened
  · rw [found] at opened
    cases opened
    rfl
  · rw [found] at opened
    simp only [bind, Except.bind] at opened
    split at opened
    · cases opened
      rw [still_setRegister (by simp), still_setRegister (by simp)]
    · cases opened
      rfl

/-- A channel that is open is served, if the controller is not busy where it is waited for without a
bound. -/
theorem serves_of_openChannel {wait : WaitPolicy} {channel : Channel} {m m' : Mailbox}
    (opened : m.openChannel channel = .ok (.ok (), m'))
    (idle : wait = .forever → ∀ here there, m.agents[channel.localId]? = some here →
      m.agents[channel.remoteId]? = some there → here.registers.observation &&& there.bit = 0) :
    Serves wait channel m' := by
  obtain ⟨r, found, -⟩ := (layout_of_openChannel opened).2 rfl
  obtain ⟨⟨here, there⟩, inRange, -⟩ := route_eq_ok_iff.1 found
  have serves : Serves wait channel m := by
    constructor
    case inRange =>
      intro here' there' foundHere foundThere
      cases here.symm.trans foundHere
      cases there.symm.trans foundThere
      exact inRange
    case idle => exact fun forever => idle forever _ _
  exact serves.of_still (still_of_openChannel opened)

end Mailbox

end PowerBridge.Link
