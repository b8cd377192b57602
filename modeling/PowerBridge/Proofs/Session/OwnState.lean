import PowerBridge.Proofs.Service.OwnState
import PowerBridge.Proofs.Service.Shutdown
import PowerBridge.Proofs.Session.Transactions

/-!
# The service's own state along a run

What the service keeps beside its transport is a function of its history: of the changes that its
commands have made, one after the other. It is up once a setup has opened the channel; the scope is
the last one that was set; the registered interrupt is what is left of all registrations. So what a
shutdown asks of the controller can be said from the history alone.

Main statements: `Session.Leads.ownState_eq`, `Session.Leads.state_of_history`.
-/

namespace PowerBridge

open Eemi (ShutdownKind)
open Link (Scripted Transport)
open Service (Change OwnState)

variable {T : Type} [Transport T]

/-! ## A list of changes -/

namespace Service.Change

variable (limit : UInt32)

theorem up_foldl (changes : List Change) (s : OwnState) :
    (changes.foldl (apply limit) s).up = true ↔ s.up = true ∨ .cameUp ∈ changes := by
  induction changes generalizing s with
  | nil => simp
  | cons change rest ih =>
    rw [List.foldl_cons, ih, List.mem_cons]
    -- only the first kind of change has to do with being up
    cases change <;> simp [apply]

/-- The scope is the last one that was set, or the one before all changes. -/
theorem scope_foldl (changes : List Change) (s : OwnState) :
    (changes.foldl (apply limit) s).scope = (changes.filterMap scope?).getLastD s.scope := by
  induction changes generalizing s with
  | nil => rfl
  | cons change rest ih =>
    rw [List.foldl_cons, ih]
    cases change with
    | scopeSet scope => exact (List.getLastD_cons ..).symm
    | cameUp => rfl
    | sgiRegistered sgi reset => rfl

/-- The registration is what the requests to register have made of it, one after the other. -/
theorem sgi_foldl (changes : List Change) (s : OwnState) :
    (changes.foldl (apply limit) s).sgi =
      (changes.filterMap registration?).foldl
        (fun held asked => (held.register asked.1 asked.2 limit).2) s.sgi := by
  induction changes generalizing s with
  | nil => rfl
  | cons change rest ih =>
    rw [List.foldl_cons, ih]
    cases change <;> rfl

end Service.Change

/-! ## The changes of a run -/

/-- The change that a transition makes, if it is made by a command. -/
def Transition.change? (config : Config) (t : Transition T) : Option Change :=
  match t.input with
  | .command c => c.change? (t.before.env config) t.before.machine
  | .outside _ | .core _ => none

/-- A setup that opens the channel of the primary processor. -/
def Transition.ComesUp (config : Config) (t : Transition T) : Prop :=
  t.input = .command .setup ∧ Service.opens (t.before.env config) t.before.machine = true

theorem Transition.change?_eq_cameUp_iff {config : Config} {t : Transition T} :
    t.change? config = some .cameUp ↔ t.ComesUp config := by
  obtain ⟨before, input, report, after⟩ := t
  cases input with
  | outside change | core index => simp [Transition.change?, Transition.ComesUp]
  | command command =>
    rw [Transition.change?, Transition.ComesUp, Input.command.injEq]
    exact Command.change?_eq_cameUp_iff

namespace Session

/-- The changes of a run, in order. -/
def changes (config : Config) (s : Session T) (inputs : List (Input T)) : List Change :=
  (s.history config inputs).filterMap (Transition.change? config)

/-- One step makes its change, and no other. -/
theorem ownState_step (config : Config) (s : Session T) (input : Input T) :
    let taken : Transition T :=
      { before := s, input, report := (s.step config input).1, after := (s.step config input).2 }
    taken.after.machine.ownState =
      (taken.change? config).elim s.machine.ownState
        (Change.apply config.platform.sgiLimit s.machine.ownState) := by
  cases input with
  | outside change | core index => rfl
  | command command => exact command.ownState_perform (s.env config) s.machine

namespace Leads

variable {config : Config} {s s' : Session T} {inputs : List (Input T)} {t : T}

/-- **The service's own state is a function of its history**: the changes of the run, one after the
other, lead from the state before it to the state after it. -/
theorem ownState_eq (led : Leads config s inputs s') :
    s'.machine.ownState =
      (s.changes config inputs).foldl (Change.apply config.platform.sgiLimit)
        s.machine.ownState := by
  -- on the inputs: the first one makes its change, and the rest goes on from there
  induction led with
  | nil s => rfl
  | @cons s s' input rest continues _ ih =>
    rw [ih, changes, changes, history, if_pos continues]
    have stepped := ownState_step config s input
    dsimp only at stepped
    rw [stepped, List.filterMap_cons]
    cases Transition.change? config ⟨s, input, _, _⟩ with
    | none => rfl
    | some change => rfl

/-- **What the service keeps, read off its history**: it is up exactly if some setup has opened the
channel; the scope is the last one that was set; the interrupt is what the registrations have left.
So a shutdown or reset sends one frame for that scope. -/
theorem state_of_history (led : Leads config (start t) inputs s') :
    (s'.machine.up = true ↔
      ∃ taken ∈ (start t).history config inputs, taken.ComesUp config) ∧
    s'.machine.scope =
      (((start t).changes config inputs).filterMap Change.scope?).getLastD 2 ∧
    s'.machine.sgi =
      (((start t).changes config inputs).filterMap Change.registration?).foldl
        (fun held asked => (held.register asked.1 asked.2 config.platform.sgiLimit).2)
        .unregistered ∧
    ∀ command kind first, ShutdownKind.IsOf kind command →
      config.platform.processors.head? = some first →
        SendsShutdown first.channel kind s'.machine.scope s'.machine.transport
          (s'.step config (.command command)).1.ending
          (s'.step config (.command command)).1.events := by
  have state := led.ownState_eq
  refine ⟨?up, ?scope, ?sgi, ?shutdown⟩
  case up =>
    have up : s'.machine.up = _ := congrArg OwnState.up state
    rw [up, Change.up_foldl, changes, List.mem_filterMap]
    simp only [Transition.change?_eq_cameUp_iff]
    -- at first the service is down
    exact or_iff_right Bool.false_ne_true
  case scope =>
    exact (congrArg OwnState.scope state).trans (Change.scope_foldl _ _ _)
  case sgi =>
    exact (congrArg OwnState.sgi state).trans (Change.sgi_foldl _ _ _)
  case shutdown =>
    intro command kind first is listed
    have primary : (s'.env config).platform.processors.head? = some first := listed
    exact Command.sendsShutdown is primary s'.machine

end Leads

/-- A setup that fails and one that succeeds, a scope that is set, an interrupt that is registered,
and another one that is refused since the first is held. -/
def stateInputs : List (Input Scripted) :=
  [.outside (Scripted.failOpen (.invalidAgent 1)), .command .setup, .command .setup,
    .command (.smc .nonSecure (Service.callerRegisters 0xc200000c 0x100000002 0)),
    .command (.smc .nonSecure (Service.callerRegisters 0xc2000022 0x1900000000 5)),
    .command (.call .secure (.ioctl 0 25 6 0))]

/-- After these the service is up, and a reset asks for the scope that was set. -/
theorem state_of_stateInputs :
    ∃ s', Leads Config.oneCore (start {}) stateInputs s' ∧ s'.machine.up = true ∧
      s'.machine.scope = 1 ∧ s'.machine.sgi = .registered 5 ∧
      (s'.step Config.oneCore (.command .systemReset)).1.events =
        [.link ⟨0, 1⟩ (.requestWritten #v[0x20c, 1, 1, 0, 0, 0]), .link ⟨0, 1⟩ .triggered] := by
  have led : Leads Config.oneCore (start {}) stateInputs _ :=
    .cons rfl (.cons rfl (.cons rfl (.cons rfl (.cons rfl (.cons rfl (.nil _))))))
  obtain ⟨up, scope, sgi, shutdown⟩ := led.state_of_history
  refine ⟨_, led, ?_, scope.trans rfl, sgi.trans rfl, ?_⟩
  · -- the second setup opens the channel
    refine up.2 ⟨_, List.mem_cons_of_mem _ (List.mem_cons_of_mem _ List.mem_cons_self), rfl, rfl⟩
  · have sent := shutdown .systemReset .reset _ rfl rfl
    exact (sent.answered ⟨_, _, rfl, rfl⟩).2

end Session

end PowerBridge
