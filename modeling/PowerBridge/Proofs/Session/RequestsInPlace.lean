import PowerBridge.Proofs.Link.Replay
import PowerBridge.Proofs.Service.Primary
import PowerBridge.Proofs.Session.Transactions

/-!
# Requests in place

When the controller is triggered it looks for a request in the window of the channel. Setup opens
the channel of the primary processor, and refuses to come up if the messages of the channel do not
lie in the memory. So requests on this channel are in place in every run after setup.

The channels of other processors are used by suspends of their cores, and are never opened. If the
window of such a channel reaches behind the memory, the request is dropped, and the controller is
triggered without it.

Main statements: `Session.request_in_place_iff`, `Session.suspend_without_request`.
-/

namespace PowerBridge

open Eemi (frameWords)
open Link (Agent Channel Mailbox Route Transport window?)

/-! ## Layouts in a session -/

/-- An input that leaves the buffers of the agents where they are, and the memory its size. -/
def Input.KeepsLayout : Input Mailbox → Prop
  | .outside change => ∀ m : Mailbox, (change m).layout = m.layout
  | .core _ | .command _ => True

theorem Command.accounts (command : Command) (env : Env) (m : Machine Mailbox) :
    Accounts m (command.perform env m).events (command.perform env m).machine :=
  command.performs_perform.accounts m

namespace Session

variable {config : Config} {s : Session Mailbox} {inputs : List (Input Mailbox)}

theorem layout_step (config : Config) (s : Session Mailbox) {input : Input Mailbox}
    (keeps : input.KeepsLayout) :
    (s.step config input).2.machine.transport.layout = s.machine.transport.layout := by
  cases input with
  | outside change => exact keeps _
  | core index => rfl
  | command command =>
    have accounts := command.accounts (s.env config) s.machine
    exact (congrArg Mailbox.layout accounts.replayed).trans (Mailbox.layout_replay _ _)

/-- A session that setup has brought up has the messages of its primary channel in the memory. -/
theorem messagesFit_of_setup
    (opened : (s.step config (.command .setup)).1.ending = .ok (.opened (.ok ())))
    {first : Processor} (listed : config.platform.processors.head? = some first) :
    Mailbox.MessagesFit first.channel
      (s.step config (.command .setup)).2.machine.transport := by
  have primary : (s.env config).platform.processors.head? = some first := listed
  have succeeded : (Service.setup (s.env config) s.machine).ending = .ok (.ok ()) := by
    have performed : (Command.setup.perform (s.env config) s.machine).ending =
        .ok (.opened (.ok ())) := opened
    rw [Command.perform, Act.ending_bind_pure] at performed
    cases ended : (Service.setup (s.env config) s.machine).ending with
    | error why =>
      rw [ended] at performed
      cases performed
    | ok result =>
      rw [ended] at performed
      cases performed
      rfl
  obtain ⟨t, answered⟩ := Service.openChannel_of_setup primary succeeded
  have fit := (Mailbox.layout_of_openChannel answered).2 rfl
  exact fit.of_layout (layout_step config s (show (Input.command .setup).KeepsLayout from trivial))

end Session

/-! ## What the controller finds -/

namespace Transition

/-- The mailbox of a transition after some of its events. -/
def mailboxAfter (t : Transition Mailbox) (events : List Event) : Mailbox :=
  t.before.machine.transport.replay events

/-- After some events of a transition the controller is triggered: the bit of the remote agent is
written to the trigger register of the channel's local agent. -/
structure Triggers (t : Transition Mailbox) (before : List Event) (channel : Channel) (r : Route) :
    Prop where
  seen : ∃ after, t.report.events = before ++ .link channel .triggered :: after
  routed : (t.mailboxAfter before).route channel = .ok (.ok r)

/-- What is seen of a transition with events accounts for the mailbox that it leaves. -/
theorem accounts {config : Config} {t : Transition Mailbox}
    (stepped : t.report = (t.before.step config t.input).1 ∧
      t.after = (t.before.step config t.input).2) (some : t.report.events ≠ []) :
    Accounts t.before.machine t.report.events t.after.machine := by
  rcases t with ⟨before, input, report, after⟩
  dsimp only at *
  obtain ⟨rfl, rfl⟩ := stepped
  cases input with
  -- nothing is seen of what happens outside
  | outside change => exact absurd rfl some
  | core index => exact absurd rfl some
  | command command => exact command.accounts (before.env config) before.machine

end Transition

namespace Session

variable {config : Config} {s : Session Mailbox} {inputs : List (Input Mailbox)}

/-- **A request is in place when the controller is triggered exactly if its window lies in the
memory**, in every run after setup, on every core. The request is the frame that the operation has
just written on the channel. On the channel of the primary processor it is always in place. -/
theorem request_in_place_iff
    (opened : (s.step config (.command .setup)).1.ending = .ok (.opened (.ok ())))
    (keep : ∀ input ∈ inputs, input.KeepsLayout) {t : Transition Mailbox}
    (taken : t ∈ (s.step config (.command .setup)).2.history config inputs)
    {before : List Event} {channel : Channel} {r : Route}
    (triggers : t.Triggers before channel r) :
    t.after.machine.transport = t.mailboxAfter t.report.events ∧
      t.mailboxAfter (before ++ [.link channel .triggered]) =
        (t.mailboxAfter before).setRegister channel.localId .trigger r.there.bit ∧
      r.request = (r.here.bufferOffset.toNat + r.there.targetOffset.toNat) / 4 ∧
      ∃ earlier words, before = earlier ++ [.link channel (.requestWritten words)] ∧
        (window? (t.mailboxAfter before).memory r.request frameWords = some words ↔
          r.request + frameWords ≤ (t.mailboxAfter before).memory.size) ∧
        ∀ first, config.platform.processors.head? = some first → channel = first.channel →
          window? (t.mailboxAfter before).memory r.request frameWords = some words := by
  obtain ⟨layout, stepped⟩ := of_mem_history
    (I := fun s' => s'.machine.transport.layout =
      (s.step config (.command .setup)).2.machine.transport.layout)
    (fun input mem s' same => (layout_step config s' (keep input mem)).trans same) rfl taken
  obtain ⟨⟨after, seen⟩, routed⟩ := triggers
  have accounts := Transition.accounts stepped (by simp [seen])
  refine ⟨accounts.replayed, ?_, (Link.Mailbox.route_eq_ok_iff.1 routed).2.2.1, ?_⟩
  · rw [Transition.mailboxAfter, Mailbox.replay_append]
    rcases (t.mailboxAfter before).follow_triggered channel with ⟨r', routed', rung⟩ | ⟨none, -⟩
    · cases routed.symm.trans routed'
      exact rung
    · exact absurd routed (none r)
  rw [seen] at accounts
  obtain ⟨earlier, words, written, inPlace⟩ := accounts.window?_iff routed
  refine ⟨earlier, words, written, inPlace, fun first listed same => inPlace.2 ?_⟩
  -- setup has found room for whole messages, and the layout is the same as then
  have fit := (messagesFit_of_setup opened listed).of_layout
    ((Mailbox.layout_replay t.before.machine.transport before).trans layout)
  obtain ⟨r', routed', inside⟩ := fit
  rw [← same] at routed'
  cases routed.symm.trans routed'
  exact Nat.le_trans (Nat.add_le_add_left (by decide) _) inside

end Session

/-! ## A suspend of the second core -/

/-- Two cores, each with an agent of its own. -/
def Config.twoCores : Config :=
  { platform :=
      { coreCount := 2
        idleSgi := ⟨6⟩
        controllerIrq := ⟨62⟩
        wait := .bounded 100
        processors := [⟨3, 0, 1, ⟨0, 1⟩⟩, ⟨4, 1, 2, ⟨2, 1⟩⟩]
        suspendHooks := true }
    filter := .off }

/-- A mailbox with 64 words, in which the buffers of the second core's agent start at an offset. -/
def Link.Mailbox.twoCores (offset : UInt64) : Mailbox :=
  { agents := [⟨4, 0, 0x40, {}⟩, ⟨2, 0x80, 0x40, {}⟩, ⟨8, offset, 0x40, {}⟩]
    memory := Array.replicate 64 0 }

namespace Session

/-- The session after setup. -/
def setUpTwoCores (offset : UInt64) : Report × Session Mailbox :=
  (start (Mailbox.twoCores offset)).step .twoCores (.command .setup)

/-- The second core comes to run and suspends. -/
def suspendSecond : List (Input Mailbox) :=
  [.core 1, .command (.call .nonSecure (.selfSuspend 0 0 0x1000))]

/-- The transition of the second core's suspend. -/
def suspended (offset : UInt64) : Transition Mailbox :=
  let before := ((setUpTwoCores offset).2.step .twoCores (.core 1)).2
  let input := .command (.call .nonSecure (.selfSuspend 0 0 0x1000))
  let next := before.step .twoCores input
  { before
    input
    report := next.1
    after := next.2 }

theorem suspended_mem_history (offset : UInt64) :
    suspended offset ∈ (setUpTwoCores offset).2.history .twoCores suspendSecond :=
  List.mem_cons_of_mem _ List.mem_cons_self

/-- The frame of the second core's suspend. -/
def suspendFrame : Vector UInt32 frameWords := #v[0x01000207, 4, 0, 0, 0x1000, 0]

/-- What is seen of the second core's suspend before the controller is triggered. -/
def suspendPosted : List Event :=
  [.chip (.suspendPrepared 4 1 0), .link ⟨2, 1⟩ (.requestWritten suspendFrame)]

/-- What is seen of it afterwards. -/
def suspendAnswered : List Event :=
  [.link ⟨2, 1⟩ (.polled false), .link ⟨2, 1⟩ (.responseRead 0)]

/-- The route of the second core's channel. -/
def secondRoute (offset : UInt64) : Route :=
  { here := ⟨8, offset, 0x40, {}⟩
    there := ⟨2, 0x80, 0x40, {}⟩
    request := (offset.toNat + 0x40) / 4
    callback := 48 }

/-- With the buffers of the second core in the memory, its request is in place when the controller
is triggered. -/
theorem request_in_place_of_second_core :
    (suspended 0x40).Triggers suspendPosted ⟨2, 1⟩ (secondRoute 0x40) ∧
      window? ((suspended 0x40).mailboxAfter suspendPosted).memory 32 frameWords =
        some suspendFrame := by
  have keep : ∀ input ∈ suspendSecond, input.KeepsLayout := by
    intro input mem
    simp only [suspendSecond, List.mem_cons, List.not_mem_nil, or_false] at mem
    rcases mem with rfl | rfl <;> trivial
  have triggers : (suspended 0x40).Triggers suspendPosted ⟨2, 1⟩ (secondRoute 0x40) :=
    ⟨⟨suspendAnswered, by decide +kernel⟩, rfl⟩
  obtain ⟨-, -, -, earlier, words, written, inPlace, -⟩ :=
    request_in_place_iff (s := start (Mailbox.twoCores 0x40)) rfl keep
      (suspended_mem_history 0x40) triggers
  have frame : words = suspendFrame := by
    have last := congrArg List.getLast? written
    rw [List.getLast?_append] at last
    cases last
    rfl
  rw [← frame]
  exact ⟨triggers, inPlace.2 (by decide +kernel)⟩

/-- **A trigger without a request**: setup succeeds, and the second core suspends, but its buffers
begin where the memory ends. The controller is triggered, although the request window cannot even be
read, and no word of the memory has changed. -/
theorem suspend_without_request :
    (setUpTwoCores 0x100).1.ending = .ok (.opened (.ok ())) ∧
      suspended 0x100 ∈ (setUpTwoCores 0x100).2.history .twoCores suspendSecond ∧
      (suspended 0x100).Triggers suspendPosted ⟨2, 1⟩ (secondRoute 0x100) ∧
      window? ((suspended 0x100).mailboxAfter suspendPosted).memory 80 frameWords = none ∧
      (suspended 0x100).after.machine.transport.memory =
        (suspended 0x100).before.machine.transport.memory ∧
      (suspended 0x100).after.machine.transport.agents[2]?.map (·.registers.trigger) = some 2 := by
  have triggers : (suspended 0x100).Triggers suspendPosted ⟨2, 1⟩ (secondRoute 0x100) :=
    ⟨⟨suspendAnswered, by decide +kernel⟩, rfl⟩
  exact ⟨rfl, suspended_mem_history 0x100, triggers, by decide +kernel⟩

end Session

end PowerBridge
