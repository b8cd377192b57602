import PowerBridge.Proofs.Exchange.Scripted
import PowerBridge.Proofs.Service.Commands
import PowerBridge.Proofs.Service.Elementary
import PowerBridge.Proofs.Service.Interrupt
import PowerBridge.Proofs.Smc.Values

/-!
# What leaves a callback waiting

Over a scripted transport the only operation that takes a callback away is to clear it. So an action
that may not clear a callback leaves it waiting, and no action puts one there.

The handler of the controller's interrupt may clear a callback, but not one that is meant for the
operating system. Of all commands only those that read the callback for good take it, and then they
give its words.

Main statements: `Command.callback_kept`, `routeSmc_getCallbackData`.
-/

namespace PowerBridge

open Act (Elementary)
open Eemi (Api Callback)
open Link (Channel Scripted)
open Smc (CallerRegisters functionOf)

/-! ## Elementary actions -/

/-- An elementary action keeps the callback, unless it clears it. -/
theorem Act.Elementary.callback_eq {may : Effect → Prop} {α : Type} {x : Act Scripted α}
    (h : Elementary may x) (env : Env) (m : Machine Scripted) :
    (x env m).machine.transport.callback = m.transport.callback ∨
      (∃ channel, may (.callbackCleared channel)) ∧
        (x env m).machine.transport.callback = none := by
  cases h with
  | clearPending allowed => exact .inr ⟨⟨_, allowed⟩, rfl⟩
  | isBusy channel =>
    left
    rw [Exchange.isBusy_apply, Scripted.poll]
    split <;> rfl
  | readResponse channel values =>
    left
    rw [Exchange.readResponse_apply]
    rfl
  | openChannel _ =>
    left
    rcases m with ⟨⟨responses, busyPolls, callback, openError⟩, up, scope, sgi⟩
    cases openError <;> rfl
  | _ => exact .inl rfl

/-- What holds of the callback, or of none if the action may clear it, goes on holding. -/
theorem Performs.callback_invariant {may : Effect → Prop} {n : Nat} {α : Type}
    {x : Act Scripted α} (h : Performs may n x) {I : Option Callback → Prop}
    (ifCleared : ∀ channel, may (.callbackCleared channel) → I none) (env : Env)
    {m : Machine Scripted} (before : I m.transport.callback) :
    I (x env m).machine.transport.callback := by
  refine h.tracedBy (.invariant fun m => I m.transport.callback) (fun elementary m before => ?_)
    m before
  rcases elementary.callback_eq env m with same | ⟨⟨channel, allowed⟩, none⟩
  · rw [same]
    exact before
  · rw [none]
    exact ifCleared channel allowed

/-! ## The handler of the controller's interrupt -/

namespace Service

variable {env : Env} {first : Processor}
  (listed : env.platform.processors.head? = some first) {m : Machine Scripted} {c : Callback}

include listed

/-- The handler leaves a callback for the operating system waiting, however it ends. -/
theorem callback_handleControllerIrq (pending : m.transport.callback = some c)
    (system : c.ForSystem) (interrupt : InterruptId) :
    (handleControllerIrq interrupt env m).machine.transport.callback = some c := by
  have found : waiting m = c := by rw [waiting, pending, Option.getD_some]
  have told : Performs (fun _ => False) 0 (do
      notifySystem
      Act.emit (.gic (.ended interrupt)) : Act Scripted Unit) :=
    performs_notifySystem.after fun _ => .gic _
  rw [handleControllerIrq, Act.log_bind, Act.emit_bind,
    Act.bind_of_ok (readCallback_apply listed false m), found, handleCallback_of_forSystem system]
  exact told.callback_invariant (I := (· = some c)) (fun _ never => never.elim) env pending

theorem callback_routeInterrupt (pending : m.transport.callback = some c)
    (system : c.ForSystem) (interrupt : InterruptId) :
    (routeInterrupt interrupt env m).machine.transport.callback = some c := by
  have other {x : Act Scripted Unit} (h : Performs (fun _ => False) 0 x) :
      (x env m).machine.transport.callback = some c :=
    h.callback_invariant (I := (· = some c)) (fun _ never => never.elim) env pending
  rw [routeInterrupt, Act.env_bind]
  split
  · exact callback_handleControllerIrq listed pending system interrupt
  · split
    · exact other (performs_handleIdleSgi interrupt)
    · exact other (.log _ _)

/-! ## Taking the callback -/

omit listed in
/-- A call for the callback that waits, and that reaches the service. -/
def AsksCallback (x : CallerRegisters) : Prop :=
  Accepts (functionOf x) ∧ (functionOf x).number.toUInt32 = Api.getCallbackData.code

omit listed in
/-- The registers in which a callback is returned: two words to a register. -/
def callbackValues (c : Callback) : List UInt64 :=
  [c.kind.toUInt64 ||| (c.target.toUInt64 <<< 32), c.event.toUInt64 ||| (c.detail.toUInt64 <<< 32)]

/-- A caller who asks for the callback is given it, and then it is cleared. -/
theorem routeSmc_getCallbackData (up : m.up = true) (world : World) {x : CallerRegisters}
    (asks : AsksCallback x) :
    ∃ r : Smc.Return, r.values = callbackValues (waiting m) ∧
      routeSmc world x env m = ⟨.ok r, cleared m, readEvents first.channel true m, []⟩ := by
  refine ⟨_, Smc.Return.values_ofPair _ _, ?_⟩
  rw [routeSmc_of_accepts world asks.1, handleSmc_of_api world env up asks.2]
  have read := readCallback_apply listed true m
  have performed : (Call.ofRegisters .getCallbackData x).perform world env m =
      ⟨.ok (.callback (waiting m)), cleared m, readEvents first.channel true m, []⟩ := by
    change (readCallback true >>= fun c => pure (Result.callback c)) env m = _
    rw [Act.bind_of_ok read]
    simp only [if_true, Act.pure_apply, List.append_nil]
  rw [Act.bind_of_ok performed, Act.orFault_apply, List.append_nil, List.append_nil]
  rfl

end Service

/-! ## Commands -/

open Service

/-- The commands that take the callback that waits, if there is one. -/
def Command.TakesCallback : Command → Prop
  | .smc _ x => AsksCallback x
  | .serviceSmc _ x => (functionOf x).number.toUInt32 = Api.getCallbackData.code
  | .call _ c => c = .getCallbackData
  | .readCallback acknowledge => acknowledge = true
  | _ => False

/-- A call that is not one for the callback may not clear it. -/
theorem Service.Call.eq_getCallbackData_of_ofRegisters {api : Api} {x : CallerRegisters}
    (h : Call.ofRegisters api x = .getCallbackData) : api = .getCallbackData := by
  cases api <;> first | rfl | cases h

/-- **A callback for the operating system is left waiting** by every command but those that take
it. -/
theorem Command.callback_kept {command : Command} (leaves : ¬ command.TakesCallback) {env : Env}
    {first : Processor} (listed : env.platform.processors.head? = some first)
    {m : Machine Scripted} {c : Callback} (pending : m.transport.callback = some c)
    (system : c.ForSystem) :
    (command.perform env m).machine.transport.callback = some c := by
  have quiet (never : ∀ channel, ¬ command.Allows (.callbackCleared channel)) :
      (command.perform env m).machine.transport.callback = some c :=
    command.performs_perform.callback_invariant (I := (· = some c))
      (fun channel allowed => absurd allowed (never channel)) env pending
  cases command with
  | interrupt i =>
    refine (congrArg (·.transport.callback) (Act.machine_bind_pure _ _ env m)).trans ?_
    exact callback_routeInterrupt listed pending system i
  | controllerIrq i =>
    refine (congrArg (·.transport.callback) (Act.machine_bind_pure _ _ env m)).trans ?_
    exact callback_handleControllerIrq listed pending system i
  | smc world x =>
    by_cases accepted : Accepts (functionOf x)
    · refine quiet fun channel ⟨api, number, cleared⟩ => leaves ⟨accepted, ?_⟩
      rw [number, Service.Call.eq_getCallbackData_of_ofRegisters cleared]
    · -- a call that is not accepted has no effect
      refine (congrArg (·.transport.callback) (Act.machine_bind_pure _ _ env m)).trans ?_
      obtain ⟨logs, refused⟩ := routeSmc_of_not_accepts world accepted env m
      rw [refused]
      exact pending
  | serviceSmc world x =>
    refine quiet fun channel ⟨api, number, cleared⟩ => leaves ?_
    rw [TakesCallback, number, Service.Call.eq_getCallbackData_of_ofRegisters cleared]
  | call world c => exact quiet fun _ => leaves
  | readCallback acknowledge => exact quiet fun _ => leaves
  | _ => exact quiet fun _ never => never

end PowerBridge
