import PowerBridge.Proofs.Interrupt.Registrations
import PowerBridge.Proofs.Service.OwnState
import PowerBridge.Proofs.Smc.Dispatch
import PowerBridge.Proofs.Smc.Replies
import PowerBridge.Proofs.Smc.Requests

/-!
# Device specific controls

A control by secure monitor call has the device in its first argument word, then the number of the
control and two arguments of it. Four controls stand for calls of their own, two of which give no
word. The caller of such a control is given a zero for it, and it cannot tell: a status without
words is packed into the same register as a status and a zero.

One more control registers the interrupt of the operating system, without the controller. All others
are refused.

Main statement: `routeSmc_ioctl`.
-/

namespace PowerBridge

open Eemi (Api Failure Forwarded Ioctl Reply zeroWord)
open Link (Scripted Transport)
open Smc (CallerRegisters Return argumentOf functionOf)

namespace Service

variable {T : Type} [Transport T]

/-! ## Results in one register -/

/-- **A zero word is not seen** behind the result of a call that gives none. -/
theorem toReturn_map_zeroWord {n : Nat} (none : n = 0) (reply : Reply n) :
    (Result.reply (reply.map fun _ => zeroWord)).toReturn = (Result.reply reply).toReturn := by
  subst none
  cases reply with
  | error failure => rfl
  | ok words =>
    have empty : words.toList = [] := List.eq_nil_of_length_eq_zero words.length_toList
    simp only [Except.map, Result.toReturn, empty]
    rfl

theorem exists_toReturn_zeroWord :
    ∃ r, (Result.reply (.ok zeroWord)).toReturn = .ok r ∧ r.values = [0] := by
  have single : [(0 : UInt32)].length < Return.replyWords := by decide
  exact Return.ofWords_eq 0 single

theorem exists_toReturn_failure (failure : Failure) :
    ∃ r, (Result.reply (.error failure : Reply 1)).toReturn = .ok r ∧
      r.values = [failure.code.toUInt64] := by
  have single : [(0 : UInt32)].length < Return.replyWords := by decide
  obtain ⟨r, packed, values⟩ := Return.ofWords_eq failure.code single
  refine ⟨r, packed, values.trans ?_⟩
  rw [Word.pack, Word.pack, Word.join_zero_right]

/-! ## What the controls do -/

/-- The call that a control stands for, with its arguments; 2 is the parameter of a clock generator
that holds its data. -/
def standsFor (id first second : UInt32) : Option (Forwarded × List UInt32) :=
  match id with
  | 8 => some (.pllSetMode, [first, second])
  | 9 => some (.pllGetMode, [first])
  | 10 => some (.pllSetParameter, [first, 2, second])
  | 11 => some (.pllGetParameter, [first, 2])
  | _ => none

theorem forward_map_zeroWord {api : Forwarded} (none : api.outputs = 0) (world : World)
    (args : List UInt32) :
    (forward api world args >>= fun reply =>
        Act.orFault (Result.reply (reply.map fun _ => zeroWord)).toReturn : Act T Return) =
      forward api world args >>= fun reply => Act.orFault (Result.reply reply).toReturn := by
  simp only [toReturn_map_zeroWord none]

/-- A control that stands for a call is answered like it. -/
theorem ioctl_of_standsFor {id first second : UInt32} {api : Forwarded} {args : List UInt32}
    (stands : standsFor id first second = some (api, args)) (world : World) :
    (ioctl id first second world >>= fun reply => Act.orFault (Result.reply reply).toReturn :
        Act T Return) =
      forward api world args >>= fun reply => Act.orFault (Result.reply reply).toReturn := by
  have known (control : Ioctl) : Coded.ofCode? control.code = some control :=
    Coded.ofCode?_code control
  unfold standsFor at stands
  split at stands
  -- the setters give no word, and the zero that is given in its place is not seen
  case h_1 =>
    cases stands
    have control : Coded.ofCode? 8 = some Ioctl.setPllMode := known .setPllMode
    simp only [ioctl, control, bind_assoc, pure_bind]
    exact forward_map_zeroWord rfl world _
  case h_2 =>
    cases stands
    have control : Coded.ofCode? 9 = some Ioctl.getPllMode := known .getPllMode
    simp only [ioctl, control]
    rfl
  case h_3 =>
    cases stands
    have control : Coded.ofCode? 10 = some Ioctl.setPllData := known .setPllData
    simp only [ioctl, control, bind_assoc, pure_bind]
    exact forward_map_zeroWord rfl world _
  case h_4 =>
    cases stands
    have control : Coded.ofCode? 11 = some Ioctl.getPllData := known .getPllData
    simp only [ioctl, control]
    rfl
  case h_5 => cases stands

/-- The calls that controls stand for take all of their arguments. -/
theorem arguments_of_standsFor {id first second : UInt32} {api : Forwarded} {args : List UInt32}
    (stands : standsFor id first second = some (api, args)) : args.length = api.arguments := by
  unfold standsFor at stands
  split at stands <;> cases stands <;> rfl

/-- Words behind the arguments of an API are not passed on. -/
theorem forward_of_isPrefix {api : Forwarded} {args words : List UInt32}
    (all : args.length = api.arguments) (first : args <+: words) (world : World) :
    (forward api world words : Act T (Reply api.outputs)) = forward api world args := by
  rw [forward, forward, ← all, ← List.prefix_iff_eq_take.1 first, List.take_length]

theorem ioctl_of_unknown {id : UInt32} (unknown : id ∉ [8, 9, 10, 11, 25])
    (first second : UInt32) (world : World) :
    (ioctl id first second world : Act T (Reply 1)) = pure (.error .notSupported) := by
  have none : (Coded.ofCode? id : Option Ioctl) = none := by
    refine Coded.ofCode?_eq_none_iff.2 fun control same => unknown ?_
    have listed : control.code ∈ [8, 9, 10, 11, 25] := by
      cases control <;> decide
    exact same ▸ listed
  simp only [ioctl, none]

/-! ## Controls by secure monitor call -/

section

variable (world : World) {x : CallerRegisters} (accepted : Accepts (functionOf x))
  (number : (functionOf x).number.toUInt32 = Api.ioctl.code) (env : Env) {m : Machine T}
  (up : m.up = true)
include accepted number up

theorem routeSmc_ioctl_of_up :
    routeSmc world x env m =
      (ioctl (argumentOf x 1) (argumentOf x 2) (argumentOf x 3) world >>= fun reply =>
        Act.orFault (Result.reply reply).toReturn) env m := by
  rw [routeSmc_of_accepts world accepted, handleSmc_of_api world env up number]
  simp only [Call.ofRegisters, Call.ofWords, Call.perform, bind_assoc, pure_bind]

/-- The answer to a control whose reply is known. -/
theorem routeSmc_ioctl_of_ok {reply : Reply 1} {m' : Machine T} {events : List Event}
    {logs : List Log.Record} {r : Return}
    (done : ioctl (argumentOf x 1) (argumentOf x 2) (argumentOf x 3) world env m =
      ⟨.ok reply, m', events, logs⟩)
    (packed : (Result.reply reply).toReturn = .ok r) :
    routeSmc world x env m = ⟨.ok r, m', events, logs⟩ := by
  rw [routeSmc_ioctl_of_up world accepted number env up, Act.bind_of_ok done, packed,
    Act.orFault_ok, Act.pure_apply, List.append_nil, List.append_nil]

/-- The registration of an interrupt is answered without the controller. -/
theorem routeSmc_setSgi (control : argumentOf x 1 = 25) :
    let step := m.sgi.register (argumentOf x 2) (decide (argumentOf x 3 = 1)) env.platform.sgiLimit
    ∃ r logs, routeSmc world x env m = ⟨.ok r, { m with sgi := step.2 }, [], logs⟩ ∧
      match step.1 with
      | .ok () => r.values = [0]
      | .error _ => r.values = [1] ∧ step.2 = m.sgi := by
  intro step
  obtain ⟨logs, done⟩ := ioctl_setSgi_apply (argumentOf x 2) (argumentOf x 3) world env m
  rw [← control] at done
  cases registered : step.1 with
  | ok _ =>
    obtain ⟨r, packed, values⟩ := exists_toReturn_zeroWord
    rw [registered] at done
    exact ⟨r, logs, routeSmc_ioctl_of_ok world accepted number env up done packed, values⟩
  | error e =>
    obtain ⟨r, packed, values⟩ := exists_toReturn_failure .args
    rw [registered] at done
    exact ⟨r, logs, routeSmc_ioctl_of_ok world accepted number env up done packed, values,
      SgiRegistration.register_of_error registered⟩

theorem routeSmc_ioctl_of_unknown (unknown : argumentOf x 1 ∉ [8, 9, 10, 11, 25]) :
    ∃ r, routeSmc world x env m = ⟨.ok r, m, [], []⟩ ∧ r.values = [4] := by
  obtain ⟨r, packed, values⟩ := exists_toReturn_failure .notSupported
  have refused : ioctl (argumentOf x 1) (argumentOf x 2) (argumentOf x 3) world env m =
      ⟨.ok (.error .notSupported), m, [], []⟩ := by
    rw [ioctl_of_unknown unknown]
    rfl
  exact ⟨r, routeSmc_ioctl_of_ok world accepted number env up refused packed, values⟩

end

/-- A control has the outcome of the call that it stands for, while the service is down too. -/
theorem routeSmc_ioctl_of_standsFor (world : World) {x y : CallerRegisters}
    (accepted : Accepts (functionOf x))
    (number : (functionOf x).number.toUInt32 = Api.ioctl.code) {api : Forwarded}
    {args : List UInt32}
    (stands : standsFor (argumentOf x 1) (argumentOf x 2) (argumentOf x 3) = some (api, args))
    (accepted' : Accepts (functionOf y))
    (number' : (functionOf y).number.toUInt32 = (Api.forwarded api).code)
    (first : args <+: argumentWords y) (env : Env) (m : Machine T) :
    routeSmc world x env m = routeSmc world y env m := by
  cases up : m.up with
  | false =>
    rw [routeSmc_of_accepts world accepted, routeSmc_of_accepts world accepted',
      handleSmc_of_down world x env up, handleSmc_of_down world y env up]
  | true =>
    -- the other call passes the same words on, and nothing of what is behind them
    have forwarded : (forward api world (argumentWords y) : Act T (Reply api.outputs)) = _ :=
      forward_of_isPrefix (arguments_of_standsFor stands) first world
    rw [routeSmc_ioctl_of_up world accepted number env up, ioctl_of_standsFor stands world,
      ← forwarded, routeSmc_of_accepts world accepted', handleSmc_of_api world env up number']
    simp only [Call.ofRegisters, Call.ofWords, Call.perform, argumentWords, bind_assoc, pure_bind]

/-- **Controls agree with the calls they stand for.** A call of a control that stands for another
call has the same outcome as that call: the caller is given the same values, the service is left the
same, and the same events and log records are seen. Else the controller has no part in it: a service
that is up registers the interrupt, and says whether that failed, or refuses the control. -/
theorem routeSmc_ioctl (world : World) {x : CallerRegisters} (accepted : Accepts (functionOf x))
    (number : (functionOf x).number.toUInt32 = Api.ioctl.code) (env : Env) (m : Machine T) :
    (∀ api args,
      standsFor (argumentOf x 1) (argumentOf x 2) (argumentOf x 3) = some (api, args) →
        ∀ y, Accepts (functionOf y) →
          (functionOf y).number.toUInt32 = (Api.forwarded api).code →
          args <+: argumentWords y → routeSmc world x env m = routeSmc world y env m) ∧
    (m.up = true → argumentOf x 1 = 25 →
      let step :=
        m.sgi.register (argumentOf x 2) (decide (argumentOf x 3 = 1)) env.platform.sgiLimit
      ∃ r logs, routeSmc world x env m = ⟨.ok r, { m with sgi := step.2 }, [], logs⟩ ∧
        match step.1 with
        | .ok () => r.values = [0]
        | .error _ => r.values = [1] ∧ step.2 = m.sgi) ∧
    (m.up = true → argumentOf x 1 ∉ [8, 9, 10, 11, 25] →
      ∃ r, routeSmc world x env m = ⟨.ok r, m, [], []⟩ ∧ r.values = [4]) := by
  refine ⟨?stands, ?setSgi, ?unknown⟩
  case stands =>
    intro api args stands y accepted' number' first
    exact routeSmc_ioctl_of_standsFor world accepted number stands accepted' number' first env m
  case setSgi =>
    intro up control
    exact routeSmc_setSgi world accepted number env up control
  case unknown =>
    intro up unknown
    exact routeSmc_ioctl_of_unknown world accepted number env up unknown

end Service

/-! ## Three controls of a device -/

open Service (callerRegisters routeSmc)

/-- The registers of a caller that gives a control for device 5, and its arguments. -/
def controlRegisters (id first second : UInt32) : CallerRegisters :=
  callerRegisters 0xc2000022 (Word.join 5 id) (Word.join first second)

/-- The mode of a clock generator is set by control 8 as by call 50, though the controller refuses
it; interrupt 16 cannot be registered; there is no control 7. -/
theorem routeSmc_ioctl_setUp :
    let s := Session.setUp [⟨2001, []⟩]
    let env := s.env Config.oneCore
    routeSmc .nonSecure (controlRegisters 8 3 1) env s.machine =
        routeSmc .nonSecure (callerRegisters 0xc2000032 (Word.join 3 1) 0) env s.machine ∧
      (∃ r logs, routeSmc .nonSecure (controlRegisters 25 16 0) env s.machine =
        ⟨.ok r, s.machine, [], logs⟩ ∧ r.values = [1]) ∧
      ∃ r, routeSmc .nonSecure (controlRegisters 7 3 1) env s.machine =
        ⟨.ok r, s.machine, [], []⟩ ∧ r.values = [4] := by
  intro s env
  have function (id first second : UInt32) :
      functionOf (controlRegisters id first second) = ⟨0xc2000022⟩ := rfl
  have accepted : Service.Accepts ⟨0xc2000022⟩ := by decide
  have control (id first second : UInt32) :=
    Service.routeSmc_ioctl .nonSecure (function id first second ▸ accepted)
      (function id first second ▸ rfl) env s.machine
  refine ⟨?mode, ?interrupt, ?unknown⟩
  case mode =>
    exact (control 8 3 1).1 .pllSetMode [3, 1] (by decide) _ (by decide) rfl (by decide)
  case interrupt =>
    obtain ⟨r, logs, handled, values, -⟩ := (control 25 16 0).2.1 rfl (by decide)
    exact ⟨r, logs, handled, values⟩
  case unknown => exact (control 7 3 1).2.2 rfl (by decide)

end PowerBridge
