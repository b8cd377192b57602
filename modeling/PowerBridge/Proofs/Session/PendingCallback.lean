import PowerBridge.Proofs.Service.WaitingCallback
import PowerBridge.Proofs.Session.ControllerInterrupt

/-!
# Callbacks for the operating system

A callback that is meant for the operating system waits until it is asked for, whatever else happens
in a session: no call, no interrupt and no other core takes it. Who asks for it first is given its
words; who asks again is given zeros, until the controller leaves another callback.

Main statement: `Session.Reachable.callback_delivered_once`.
-/

namespace PowerBridge

open Eemi (Callback)
open Link (Scripted)
open Smc (CallerRegisters)
open Service (AsksCallback callbackValues cleared readEvents waiting)

/-! ## Inputs -/

namespace Input

/-- An input from outside that has to do with other things than callbacks. -/
def KeepsCallback : Input Scripted → Prop
  | .outside change => ∀ t : Scripted, (change t).callback = t.callback
  | .core _ | .command _ => True

/-- An input that neither takes the callback that waits nor leaves another one. -/
def LeavesCallback (input : Input Scripted) : Prop :=
  input.KeepsCallback ∧ ∀ command, input = .command command → ¬ command.TakesCallback

end Input

namespace Session

variable {config : Config} {s s' : Session Scripted} {input : Input Scripted}
  {inputs : List (Input Scripted)}

theorem up_step (up : s.machine.up = true) (input : Input Scripted) :
    (s.step config input).2.machine.up = true := by
  cases input with
  | outside change | core index => exact up
  | command command => exact Command.up_perform_iff.2 (.inl up)

/-! ## One input -/

theorem callback_step {first : Processor}
    (listed : config.platform.processors.head? = some first) (leaves : input.LeavesCallback)
    {c : Callback} (pending : s.machine.transport.callback = some c) (system : c.ForSystem) :
    (s.step config input).2.machine.transport.callback = some c := by
  cases input with
  | outside change => exact (leaves.1 _).trans pending
  | core index => exact pending
  | command command =>
    have primary : (s.env config).platform.processors.head? = some first := listed
    exact Command.callback_kept (leaves.2 command rfl) primary pending system

/-- Nothing but the controller leaves a callback. -/
theorem callback_step_none (keeps : input.KeepsCallback)
    (none : s.machine.transport.callback = none) :
    (s.step config input).2.machine.transport.callback = .none := by
  cases input with
  | outside change => exact (keeps _).trans none
  | core index => exact none
  | command command =>
    exact command.performs_perform.callback_invariant (I := (· = .none)) (fun _ _ => rfl)
      (s.env config) none

/-! ## Runs -/

namespace Leads

theorem stays_up (led : Leads config s inputs s') (up : s.machine.up = true) :
    s'.machine.up = true :=
  led.invariant (I := fun s => s.machine.up = true) (fun input _ _ up => up_step up input) up

theorem callback_waits (led : Leads config s inputs s') {first : Processor}
    (listed : config.platform.processors.head? = some first)
    (leave : ∀ input ∈ inputs, input.LeavesCallback) {c : Callback}
    (pending : s.machine.transport.callback = some c) (system : c.ForSystem) :
    s'.machine.transport.callback = some c := by
  refine led.invariant (I := fun s => s.machine.transport.callback = some c) ?_ pending
  -- each of the inputs leaves the callback to the next one
  intro input mem s pending
  exact callback_step listed (leave input mem) pending system

theorem no_callback (led : Leads config s inputs s')
    (keep : ∀ input ∈ inputs, input.KeepsCallback)
    (none : s.machine.transport.callback = none) : s'.machine.transport.callback = .none := by
  refine led.invariant (I := fun s => s.machine.transport.callback = .none) ?_ none
  intro input mem s none
  exact callback_step_none (keep input mem) none

end Leads

/-! ## Delivery -/

/-- A session answers a call with some values in the caller's registers, some events are seen, and
another session is left. -/
structure Answers (config : Config) (s : Session Scripted) (world : World) (x : CallerRegisters)
    (values : List UInt64) (events : List Event) (s' : Session Scripted) : Prop where
  returned : ∃ r : Smc.Return,
    (s.step config (.command (.smc world x))).1.ending = .ok (.returned r) ∧ r.values = values
  seen : (s.step config (.command (.smc world x))).1.events = events
  left : (s.step config (.command (.smc world x))).2 = s'

/-- A session in which the service is up gives the callback that waits to who asks for it. -/
theorem answers_getCallbackData {first : Processor}
    (listed : config.platform.processors.head? = some first) (up : s.machine.up = true)
    (world : World) {x : CallerRegisters} (asks : AsksCallback x) :
    s.Answers config world x (callbackValues (waiting s.machine))
      (readEvents first.channel true s.machine) { s with machine := cleared s.machine } := by
  have primary : (s.env config).platform.processors.head? = some first := listed
  obtain ⟨r, values, performed⟩ := Service.routeSmc_getCallbackData primary up world asks
  have stepped : Command.perform (.smc world x) (s.env config) s.machine =
      ⟨.ok (.returned r), cleared s.machine, readEvents first.channel true s.machine, []⟩ := by
    refine (Act.bind_of_ok performed).trans ?_
    simp only [Act.pure_apply, List.append_nil]
  exact
    { returned := ⟨r, congrArg Outcome.ending stepped, values⟩
      seen := congrArg Outcome.events stepped
      left := congrArg (fun o => { s with machine := o.machine }) stepped }

/-- **A callback for the operating system is never lost, and is delivered once**: it still waits
after any inputs that do not take it; the next caller who asks is given its words, and it is
cleared; and after that, as long as no other callback is left, a caller who asks is given zeros, and
nothing is cleared. -/
theorem Reachable.callback_delivered_once (reachable : s.Reachable config)
    (up : s.machine.up = true) {c : Callback} (pending : s.machine.transport.callback = some c)
    (system : c.ForSystem) (leave : ∀ input ∈ inputs, input.LeavesCallback)
    (led : Leads config s inputs s') :
    s'.machine.transport.callback = some c ∧
      ∃ first, config.platform.processors.head? = some first ∧
        ∀ world x, AsksCallback x → ∃ delivered : Session Scripted,
          delivered.machine.transport.callback = none ∧
          s'.Answers config world x
            [c.kind.toUInt64 ||| (c.target.toUInt64 <<< 32),
              c.event.toUInt64 ||| (c.detail.toUInt64 <<< 32)]
            [.link first.channel .pendingRead, .link first.channel .callbackRead,
              .link first.channel .pendingCleared] delivered ∧
          ∀ later s'', (∀ input ∈ later, input.KeepsCallback) →
            Leads config delivered later s'' →
              ∀ world' x', AsksCallback x' → ∃ last : Session Scripted,
                s''.Answers config world' x' [0, 0] [.link first.channel .pendingRead] last := by
  obtain ⟨first, listed⟩ := reachable.exists_primary up
  have waits := led.callback_waits listed leave pending system
  have stillUp := led.stays_up up
  refine ⟨waits, first, listed, fun world x asks => ?_⟩
  refine ⟨{ s' with machine := cleared s'.machine }, rfl, ?delivered, ?again⟩
  case delivered =>
    have answered := answers_getCallbackData listed stillUp world asks
    have found : waiting s'.machine = c := by rw [waiting, waits, Option.getD_some]
    rw [found, readEvents, waits] at answered
    exact answered
  case again =>
    intro later s'' keep led' world' x' asks'
    have empty := led'.no_callback keep rfl
    have answered := answers_getCallbackData listed (led'.stays_up stillUp) world' asks'
    have found : waiting s''.machine = .zero := by rw [waiting, empty, Option.getD_none]
    rw [found, readEvents, empty] at answered
    exact ⟨_, answered⟩

/-- The controller's interrupt, a look at the callback, and a call for a clock. -/
def interludes : List (Input Scripted) :=
  [.command (.interrupt ⟨62⟩), .command (.readCallback false),
    .command (.smc .secure (Service.callerRegisters 0xc2000024 7 0))]

theorem leavesCallback_of_mem_interludes (input : Input Scripted) (mem : input ∈ interludes) :
    input.LeavesCallback := by
  simp only [interludes, List.mem_cons, List.not_mem_nil, or_false] at mem
  rcases mem with rfl | rfl | rfl
  · exact ⟨trivial, fun _ same => by cases same; exact id⟩
  · exact ⟨trivial, fun _ same => by cases same; exact Bool.false_ne_true⟩
  · refine ⟨trivial, fun _ same => ?_⟩
    cases same
    rintro ⟨-, number⟩
    exact absurd number (by decide)

/-- A request to suspend outlasts its interrupt, a look at it and a call for a clock. Then a caller
of the normal world is given it. -/
theorem callback_delivered_after_interrupt :
    ∃ s', Leads Config.oneCore (notified ⟨30, 1, 2, 3⟩) interludes s' ∧
      s'.machine.transport.callback = some ⟨30, 1, 2, 3⟩ ∧
      ∃ delivered, s'.Answers Config.oneCore .nonSecure (Service.callerRegisters 0xc2000a01 0 0)
        [0x10000001e, 0x300000002]
        [.link ⟨0, 1⟩ .pendingRead, .link ⟨0, 1⟩ .callbackRead, .link ⟨0, 1⟩ .pendingCleared]
        delivered := by
  have led : Leads Config.oneCore (notified ⟨30, 1, 2, 3⟩) interludes _ :=
    .cons rfl (.cons rfl (.cons rfl (.nil _)))
  have system : (⟨30, 1, 2, 3⟩ : Callback).ForSystem := .inl rfl
  obtain ⟨waits, first, listed, deliver⟩ :=
    (reachable_notified ⟨30, 1, 2, 3⟩).callback_delivered_once rfl rfl system
      leavesCallback_of_mem_interludes led
  cases listed
  obtain ⟨delivered, -, answered, -⟩ :=
    deliver .nonSecure (Service.callerRegisters 0xc2000a01 0 0) ⟨by decide, rfl⟩
  exact ⟨_, led, waits, delivered, answered⟩

end Session

end PowerBridge
